import MagicRules.Unicode.Table

/-!
# Sentence breaks

The classes of characters by which text is cut into sentences.
-/

namespace MagicRules.Unicode

def sentenceBreakRuns : List Run := runs
  "-9SP1LF1SP2CR1-18SP1ST1CL1-4CL3-2SC2AT1-1NU10SC1-4ST1-1UP26CL1-1CL1-3LO26CL1-1CL1-7SE1-26SP1-9
  LO1CL1-1FO1-7LO1-4LO1CL1-4UP23-1UP7LO24-1LO8UP1LO1UP1LO1UP1LO1UP1LO1UP1LO1UP1LO1UP1LO1UP1LO1UP1
  LO1UP1LO1UP1LO1UP1LO1UP1LO1UP1LO1UP1LO1UP1LO1UP1LO1UP1LO1UP1LO1UP1LO1UP1LO1UP1LO1UP1LO1UP1LO1UP1
  LO1UP1LO1UP1LO1UP1LO2UP1LO1UP1LO1UP1LO1UP1LO1UP1LO1UP1LO1UP1LO1UP1LO2UP1LO1UP1LO1UP1LO1UP1LO1UP1
  LO1UP1LO1UP1LO1UP1LO1UP1LO1UP1LO1UP1LO1UP1LO1UP1LO1UP1LO1UP1LO1UP1LO1UP1LO1UP1LO1UP1LO1UP1LO1UP1
  LO1UP1LO1UP1LO1UP2LO1UP1LO1UP1LO3UP2LO1UP1LO1UP2LO1UP3LO2UP4LO1UP2LO1UP3LO3UP2LO1UP2LO1UP1LO1UP1
  LO1UP2LO1UP1LO2UP1LO1UP2LO1UP3LO1UP1LO1UP2LO2LE1UP1LO3LE4UP2LO1UP2LO1UP2LO1UP1LO1UP1LO1UP1LO1UP1
  LO1UP1LO1UP1LO1UP1LO1UP1LO2UP1LO1UP1LO1UP1LO1UP1LO1UP1LO1UP1LO1UP1LO1UP1LO1UP1LO2UP2LO1UP1LO1UP3
  LO1UP1LO1UP1LO1UP1LO1UP1LO1UP1LO1UP1LO1UP1LO1UP1LO1UP1LO1UP1LO1UP1LO1UP1LO1UP1LO1UP1LO1UP1LO1UP1
  LO1UP1LO1UP1LO1UP1LO1UP1LO1UP1LO1UP1LO1UP1LO1UP1LO1UP1LO1UP1LO1UP1LO1UP1LO1UP1LO7UP2LO1UP2LO2UP1
  LO1UP4LO1UP1LO1UP1LO1UP1LO1UP1LO69LE1LO36LE7LO2-4LE12-14LO5-7LE1-1LE1-17EX112UP1LO1UP1LO1LE1-1
  UP1LO1-2LO4-1UP1-6UP1-1UP3-1UP1-1UP2LO1UP17-1UP9LO35UP1LO2UP3LO3UP1LO1UP1LO1UP1LO1UP1LO1UP1LO1
  UP1LO1UP1LO1UP1LO1UP1LO1UP1LO1UP1LO1UP1LO5UP1LO1-1UP1LO1UP2LO2UP51LO48UP1LO1UP1LO1UP1LO1UP1LO1
  UP1LO1UP1LO1UP1LO1UP1LO1UP1LO1UP1LO1UP1LO1UP1LO1UP1LO1UP1LO1UP1LO1UP1LO1UP1LO1-1EX7UP1LO1UP1LO1
  UP1LO1UP1LO1UP1LO1UP1LO1UP1LO1UP1LO1UP1LO1UP1LO1UP1LO1UP1LO1UP1LO1UP1LO1UP1LO1UP1LO1UP1LO1UP1LO1
  UP1LO1UP1LO1UP1LO1UP1LO1UP1LO1UP1LO1UP1LO1UP1LO1UP1LO1UP2LO1UP1LO1UP1LO1UP1LO1UP1LO1UP1LO1UP1LO2
  UP1LO1UP1LO1UP1LO1UP1LO1UP1LO1UP1LO1UP1LO1UP1LO1UP1LO1UP1LO1UP1LO1UP1LO1UP1LO1UP1LO1UP1LO1UP1LO1
  UP1LO1UP1LO1UP1LO1UP1LO1UP1LO1UP1LO1UP1LO1UP1LO1UP1LO1UP1LO1UP1LO1UP1LO1UP1LO1UP1LO1UP1LO1UP1LO1
  UP1LO1UP1LO1UP1LO1UP1LO1UP1LO1UP1LO1UP1LO1UP1LO1UP1LO1UP1LO1UP1LO1UP1LO1UP1LO1UP1LO1UP1LO1UP1LO1
  -1UP38-2LE1-3SC1-2LO41ST1-7EX45-1EX1-1EX2-1EX2-1EX1-8LE27-4LE5-12FO6-6SC2-2EX11-1FO1ST3LE43EX21
  NU10-1NU2-1LE2EX1LE99ST1LE1EX7FO1-1EX6LE2EX2-1EX4LE2NU10LE3-2LE1ST3-12FO1LE1EX1LE30EX27-2LE89
  EX11LE1-14NU10LE33EX9LE2-2SC1ST1LE1-2EX1-2LE22EX4LE1EX9LE1EX3LE1EX5-9ST1-1ST1-3ST2-1LE25EX3-4
  LE11-5LE24-1LE6-1FO2-5EX9LE42EX24FO1EX33LE54EX3LE1EX18LE1EX7LE10EX2ST2NU10-1LE16EX3-1LE8-2LE2-2
  LE22-1LE7-1LE1-3LE4-2EX1LE1EX7-2EX2-2EX3LE1-8EX1-4LE2-1LE3EX2-2NU10LE2-10LE1-1EX1-2EX3-1LE6-4LE2
  -2LE22-1LE7-1LE2-1LE2-1LE2-2EX1-1EX5-4EX2-2EX3-3EX1-7LE4-1LE1-7NU10EX2LE3EX1-11EX3-1LE9-1LE3-1
  LE22-1LE7-1LE2-1LE5-2EX1LE1EX8-1EX3-1EX3-2LE1-15LE2EX2-2NU10-9LE1EX6-1EX3-1LE8-2LE2-2LE22-1LE7-1
  LE2-1LE5-2EX1LE1EX7-2EX2-2EX3-7EX3-4LE2-1LE3EX2-2NU10-1LE1-16EX1LE1-1LE6-3LE3-1LE4-3LE2-1LE1-1
  LE2-3LE2-3LE3-3LE12-4EX5-3EX3-1EX4-2LE1-6EX1-14NU10-16EX5LE8-1LE3-1LE23-1LE16-2EX1LE1EX7-1EX3-1
  EX4-7EX2-1LE3-2LE1-2LE2EX2-2NU10-16LE1EX3-1LE8-1LE3-1LE23-1LE10-1LE5-2EX1LE1EX7-1EX3-1EX4-7EX2-6
  LE2-1LE2EX2-2NU10-1LE2EX1-12EX4LE9-1LE3-1LE41EX2LE1EX7-1EX3-1EX4LE1-5LE3EX1-7LE3EX2-2NU10-10LE6
  -1EX3-1LE18-3LE24-1LE9-1LE1-2LE7-3EX1-4EX6-1EX1-1EX8-6NU10-2EX2-13LE48EX1LE2EX7-5LE7EX8-1NU10-39
  LE2-1LE1-1LE5-1LE24-1LE1-1LE10EX1LE2EX9LE1-2LE5-1LE1-1EX7-1NU10-2LE4-32LE1-23EX2-6NU10-11EX1-1
  EX1-1EX1CL4EX2LE8-1LE36-4EX20-1EX2LE5EX11-1EX36-9EX1-57LE43EX20LE1NU10ST2-4LE6EX4LE4EX3LE1EX3LE2
  EX7LE3EX4LE13EX12LE1EX1NU10EX4-2UP38-1UP1-5UP1-2LE43-1LO1LE332-1LE4-2LE7-1LE1-1LE4-2LE41-1LE4-2
  LE33-1LE4-2LE7-1LE1-1LE4-2LE15-1LE57-1LE4-2LE67-2EX3-2ST1-4ST2-23LE16-16UP86-2LO6-3LE620-1ST1
  LE17SP1LE26CL2-3LE75-3LE11-7LE18EX4-9LE19EX3ST2-9LE18EX2-12LE13-1LE3-1EX2-12LE52EX32ST2-1LE1-4
  LE1EX1-2NU10-24SC1ST1-4SC1ST1-1EX3FO1EX1NU10-6LE89-7LE5EX2LE34EX1LE1-5LE70-10LE31-1EX12-4EX12-8
  ST2NU10LE30-2LE5-11LE44-4LE26-6NU10-38LE23EX5-4LE53EX10-1EX29-2EX1NU10-6NU10-13LE1ST4-4EX31-49
  EX5LE47EX17LE8-1ST2NU10ST2-2ST2-11EX9-9ST3EX3LE30EX13LE2NU10LE44EX14-12LE36EX20-3ST2-3NU10-3LE3
  NU10LE36ST2LO9UP1LO1-5LE43-2LE3-16EX3-1EX21LE4EX1LE6EX1LE2EX3LE1-5LO192EX64UP1LO1UP1LO1UP1LO1UP1
  LO1UP1LO1UP1LO1UP1LO1UP1LO1UP1LO1UP1LO1UP1LO1UP1LO1UP1LO1UP1LO1UP1LO1UP1LO1UP1LO1UP1LO1UP1LO1UP1
  LO1UP1LO1UP1LO1UP1LO1UP1LO1UP1LO1UP1LO1UP1LO1UP1LO1UP1LO1UP1LO1UP1LO1UP1LO1UP1LO1UP1LO1UP1LO1UP1
  LO1UP1LO1UP1LO1UP1LO1UP1LO1UP1LO1UP1LO1UP1LO1UP1LO1UP1LO1UP1LO1UP1LO1UP1LO1UP1LO1UP1LO1UP1LO1UP1
  LO1UP1LO1UP1LO1UP1LO1UP1LO1UP1LO1UP1LO1UP1LO1UP1LO1UP1LO1UP1LO1UP1LO1UP1LO1UP1LO1UP1LO1UP1LO1UP1
  LO1UP1LO1UP1LO1UP1LO1UP1LO1UP1LO1UP1LO1UP1LO9UP1LO1UP1LO1UP1LO1UP1LO1UP1LO1UP1LO1UP1LO1UP1LO1UP1
  LO1UP1LO1UP1LO1UP1LO1UP1LO1UP1LO1UP1LO1UP1LO1UP1LO1UP1LO1UP1LO1UP1LO1UP1LO1UP1LO1UP1LO1UP1LO1UP1
  LO1UP1LO1UP1LO1UP1LO1UP1LO1UP1LO1UP1LO1UP1LO1UP1LO1UP1LO1UP1LO1UP1LO1UP1LO1UP1LO1UP1LO1UP1LO1UP1
  LO1UP1LO1UP1LO1UP1LO1UP1LO1UP1LO1UP1LO1UP1LO1UP1LO9UP8LO6-2UP6-2LO8UP8LO8UP8LO6-2UP6-2LO8-1UP1-1
  UP1-1UP1-1UP1LO8UP8LO14-2LO8UP8LO8UP8LO8UP8LO5-1LO2UP5-1LO1-3LO3-1LO2UP5-3LO4-2LO2UP4-4LO8UP5-5
  LO3-1LO2UP5-3SP11FO1EX2FO2-3SC2-3CL8-4AT1-3SE2FO5SP1-9CL2-1ST2-7CL2ST3-21SP1FO5-1FO10-1LO1-11CL2
  LO1-13CL2-1LO13-51EX33-17UP1-4UP1-2LO1UP3LO2UP3LO1-1UP1-3UP5-6UP1-1UP1-1UP1-1UP4-1LO1UP4LO1LE4
  LO1-2LO2UP2-5UP1LO4-4LO1-17UP16LO16LE3UP1LO1LE4-383CL4-29CL2-395UP26LO26-625CL6-7CL14-79CL2-31
  CL10-403CL22-63CL4-32CL2-514UP48LO48UP1LO1UP3LO2UP1LO1UP1LO1UP1LO1UP4LO1UP1LO2UP1LO8UP3LO1UP1LO1
  UP1LO1UP1LO1UP1LO1UP1LO1UP1LO1UP1LO1UP1LO1UP1LO1UP1LO1UP1LO1UP1LO1UP1LO1UP1LO1UP1LO1UP1LO1UP1LO1
  UP1LO1UP1LO1UP1LO1UP1LO1UP1LO1UP1LO1UP1LO1UP1LO1UP1LO1UP1LO1UP1LO1UP1LO1UP1LO1UP1LO1UP1LO1UP1LO1
  UP1LO1UP1LO1UP1LO1UP1LO1UP1LO1UP1LO1UP1LO1UP1LO1UP1LO1UP1LO1UP1LO1UP1LO1UP1LO1UP1LO1UP1LO1UP1LO2
  -6UP1LO1UP1LO1EX3UP1LO1-5ST3-4LO38-1LO1-5LO1-2LE56-7LE1-15EX1LE23-9LE7-1LE7-1LE7-1LE7-1LE7-1LE7
  -1LE7-1LE7-1EX32CL14-14CL2-2CL10-4ST1LE1-12ST1-5CL1-16ST2CL8-419SP1SC1ST1-2LE3CL10-2CL8-1CL3-1
  LE9EX6-1LE5-2LE5-4LE86-2EX2-2LE3-1LE90-1LE4-5LE43-1LE94-17LE32-48LE16-512LE6592-64LE22157-67LE46
  -1ST1LE269-1ST2LE16NU10LE2-20UP1LO1UP1LO1UP1LO1UP1LO1UP1LO1UP1LO1UP1LO1UP1LO1UP1LO1UP1LO1UP1LO1
  UP1LO1UP1LO1UP1LO1UP1LO1UP1LO1UP1LO1UP1LO1UP1LO1UP1LO1UP1LO1UP1LO1UP1LO1LE1EX4-1EX10-1LE1UP1LO1
  UP1LO1UP1LO1UP1LO1UP1LO1UP1LO1UP1LO1UP1LO1UP1LO1UP1LO1UP1LO1UP1LO1UP1LO1UP1LO3EX2LE80EX2-1ST1-3
  ST1-31LE9-2UP1LO1UP1LO1UP1LO1UP1LO1UP1LO1UP1LO1UP1LO3UP1LO1UP1LO1UP1LO1UP1LO1UP1LO1UP1LO1UP1LO1
  UP1LO1UP1LO1UP1LO1UP1LO1UP1LO1UP1LO1UP1LO1UP1LO1UP1LO1UP1LO1UP1LO1UP1LO1UP1LO1UP1LO1UP1LO1UP1LO1
  UP1LO1UP1LO1UP1LO1UP1LO1UP1LO1UP1LO1UP1LO1UP1LO10UP1LO1UP1LO1UP2LO1UP1LO1UP1LO1UP1LO1UP1LO1LE1-2
  UP1LO1UP1LO1LE1UP1LO1UP1LO3UP1LO1UP1LO1UP1LO1UP1LO1UP1LO1UP1LO1UP1LO1UP1LO1UP1LO1UP1LO1UP5LO1UP5
  LO1UP1LO1UP1LO1UP1LO1UP1LO1UP1LO1UP1LO1UP1LO1UP4LO1UP1LO1UP2LO1-2UP1LO1-1LO1-1LO1UP1LO1UP1LO1UP1
  LO1UP1-21LO3UP1LO1LE1LO3LE7EX1LE3EX1LE4EX1LE23EX5-4EX1-19LE52-2ST2-8EX2LE50EX18-8ST2NU10-6EX18
  LE6-3LE1-1LE2EX1NU10LE28EX8-1ST1LE23EX13-12LE29-3EX4LE47EX14-7ST2-5LE1NU10-6LE5EX1LE10NU10LE5-1
  LE41EX14-9LE3EX1LE8EX2-2NU10-3ST3LE23-3LE1EX3LE50EX1LE1EX3LE2EX2LE5EX2LE1EX1LE1-24LE3-2LE11EX5
  ST2LE3EX2-10LE6-2LE6-2LE6-9LE7-1LE7-1LO43-1LO14-6LO80LE35EX8ST1EX2-2NU10-6LE11172-12LE23-4LE49
  -8452LE366-2LE106-38LO7-12LO5-5LE1EX1LE10-1LE13-1LE5-1LE1-1LE2-1LE2-1LE108-33LE363CL2-16LE64-2
  LE54-40LE12-4EX16SC2ST1SC1-1ST2CL2-7EX16-1SC2-2CL16-2CL2-7SC2AT1-2SC1ST2SC1CL6-4SC1-12LE5-1LE135
  -2FO1-1ST1-6CL2-2SC2AT1-1NU10SC1-4ST1-1UP26CL1-1CL1-3LO26CL1-1CL1-1CL2ST1CL2SC1-1LE56EX2LE31-3
  LE6-2LE6-2LE6-2LE3-28FO3-4LE12-1LE26-1LE19-1LE2-1LE15-2LE14-34LE123-69LE53-136EX1-130LE29-3LE49
  -15EX1-31LE32-13LE30-5LE38EX5-5LE30-2LE36-4LE8-1LE5-42UP40LO40LE78-2NU10-6UP36-4LO36-4LE40-8LE52
  -12UP11-1UP15-1UP7-1UP2-1LO11-1LO15-1LO7-1LO2-3LE52-12LE311-9LE22-10LE8-24LO1LE2LO3-1LO42-1LO9
  -69LE6-2LE1-1LE44-1LE2-3LE1-2LE23-10LE23-9LE31-65LE19-1LE2-10LE22-10LE26-70LE56-6LE2-64LE1EX3-1
  EX2-5EX4LE4-1LE3-1LE29-2EX3-4EX1-22ST2-8LE29-3LE29-35LE8-1LE28EX2-25LE54-10LE22-10LE19-13LE18
  -110LE73-55UP51-13LO51-13LE36EX4-8NU10-6NU10LE6UP22-3EX5-1LE1LO22-250LE42-1EX2-3LE2-16LE3-55EX4
  LE29-10LE1-8LE22EX11-4ST5-22LE18EX4ST4-38LE21-27LE23-9EX3LE53EX15ST2-29NU10EX1LE2EX2LE1-9EX4LE45
  EX11-2FO1ST4EX1-10FO1-2LE25-7NU10-6EX3LE36EX14-1NU10-1ST3LE1EX2LE1-8LE35EX1-2LE1-9EX3LE48EX14LE4
  ST2-2EX4ST1EX2NU10LE1-1LE1-1ST2-32LE18-1LE25EX12ST2-1ST2-1EX1LE2EX1-62LE7-1LE1-1LE4-1LE15-1LE10
  ST1-6LE47EX12-5NU10-6EX4-1LE8-2LE2-2LE22-1LE7-1LE2-1LE5-1EX2LE1EX7-2EX2-2EX3-2LE1-6EX1-5LE5EX2-2
  EX7-3EX5-11LE10-1LE1-2LE1-1LE38-1LE1EX9-1EX1-2EX1-1EX4-1EX5LE1EX1LE1ST2-11EX2-29LE53EX18LE4ST2-3
  NU10-4EX1LE3-30LE48EX20LE2-1LE1-8NU10-166LE47EX7-2EX9-1ST2-5ST15LE4EX2-34LE48EX17ST2-1LE1-11NU10
  -38LE43EX13LE1-7NU10-6NU20-28LE27-2EX15-4NU10-2ST3-1LE7-185LE44EX15-101UP32LO32NU10-21LE8-2LE1-2
  LE8-1LE2-1LE24EX6-1EX2-2EX4LE1EX1LE1EX2ST1-1ST1-9NU10-70LE8-2LE39EX7-2EX7LE1-1LE1EX1-27LE1EX10
  LE40EX7LE1EX4-3ST2-3EX1-8LE1EX11LE46EX16-1ST2LE1-18LE73-199LE33-15NU10-6LE9-1LE37EX8-1EX8LE1ST2
  -13NU10-24LE30-2EX22-1EX14-73LE7-1LE2-1LE38EX6-3EX1-1EX2-1EX7LE1EX1-8NU10-6LE6-1LE2-1LE32EX5-1
  EX2-1EX5LE1-7NU10-310LE19EX4ST2-7EX2LE1EX1LE13-1LE34EX7-3EX5ST2-11NU10EX1-85LE1-79LE922-102LE111
  -17LE196-2636LE97-15LE1072FO16EX1LE6EX15-10LE3995-5LE583-6841LE30EX18NU10-1734LE569-7LE31-1NU10
  -4ST2LE79-1NU10-6LE30-2EX5ST1-10LE48EX7ST2-7LE4ST1-11NU10-9LE21-5LE19-432LE45-1ST2NU10-198UP32
  LO32-24ST1-103LE75-4EX1LE1EX55-7EX4LE13-64LE2-1LE1EX1-11EX2-14LE6136-8LE1238-41LE10-8935LE4-1LE7
  -1LE2-1LE291-15LE1-29LE3-2LE1-14LE4-8LE396-2308LE107-5LE13-3LE9-7LE10-3EX2ST1FO4-4172NU10-518
  EX46-2EX23-542EX5-3EX6FO8EX8-2EX7-30EX4-148EX3-443UP26LO26UP26LO7-1LO18UP26LO26UP1-1UP2-2UP1-2
  UP2-2UP4-1UP8LO4-1LO1-1LO7-1LO11UP26LO26UP2-1UP4-2UP8-1UP7-1LO26UP2-1UP4-1UP5-1UP1-3UP7-1LO26
  UP26LO26UP26LO26UP26LO26UP26LO26UP26LO26UP26LO28-2UP25-1LO25-1LO6UP25-1LO25-1LO6UP25-1LO25-1LO6
  UP25-1LO25-1LO6UP25-1LO25-1LO6UP1LO1-2NU50-512EX55-4EX50-8EX1-14EX1-3ST1-18EX5-1EX15-1104LO10LE1
  LO20-6LO6-213EX7-1EX17-2EX7-1EX2-1EX5-5LO62-33EX1-112LE45-3EX7LE7-2NU10-4LE1-321LE30EX1-17LE44
  EX4NU10-470LE28EX4NU10-214LE30EX2LE1NU10-485LE7-1LE4-1LE2-1LE15-1LE197-11EX7-41UP34LO34EX7LE1-4
  NU10-1190LE4-1LE27-1LE2-1LE1-2LE1-1LE10-1LE4-1LE1-1LE1-6LE1-4LE1-1LE1-1LE1-1LE3-1LE2-1LE1-2LE1-1
  LE1-1LE1-1LE1-1LE1-1LE2-1LE1-2LE4-1LE7-1LE4-1LE4-1LE1-1LE10-1LE17-5LE3-1LE5-1LE17-628UP26-6UP26
  -6UP26-1260CL3-1399NU10-1030LE42720-32LE4154-6LE222-2LE5762-14LE7473-15LE622-2466LE542-1506
  LE4939-5LE4192-711761FO1-30EX96-128EX240"

def sentenceBreakLetters? (name : String) : Option String :=
  match name with
  | "at" | "aterm" => some "AT"
  | "cl" | "close" => some "CL"
  | "cr" => some "CR"
  | "ex" | "extend" => some "EX"
  | "fo" | "format" => some "FO"
  | "le" | "oletter" => some "LE"
  | "lf" => some "LF"
  | "lo" | "lower" => some "LO"
  | "nu" | "numeric" => some "NU"
  | "sc" | "scontinue" => some "SC"
  | "se" | "sep" => some "SE"
  | "sp" => some "SP"
  | "st" | "sterm" => some "ST"
  | "up" | "upper" => some "UP"
  | _ => none

def sentenceBreak? (name : String) : Option Ranges :=
  (sentenceBreakLetters? name).map (Run.withValue · sentenceBreakRuns)

end MagicRules.Unicode
