import MagicRules.Unicode.Table

/-!
# Word breaks

The classes of characters by which text is cut into words.
-/

namespace MagicRules.Unicode

def wordBreakRuns : List Run := runs
  "-10LF1NL2CR1-18WS1-1DQ1-4SQ1-4MN1-1MB1-1NU10ML1MN1-5LE26-4ENL1-1LE26-10NL1-36LE1-2FO1-7LE1-1ML1
  -2LE1-5LE23-1LE31-1LE480-6LE34EX112LE5-1LE2-2LE4MN1LE1-6LE1ML1LE3-1LE1-1LE20-1LE83-1LE139-1EX7
  LE166-1LE38-2LE4-1LE1ML1LE41MN1LE1-6EX45-1EX1-1EX2-1EX2-1EX1-8HL27-4HL4LE1ML1-11FO6-6MN2-2EX11-1
  FO1-3LE43EX21NU10-1NU1MN1-1LE2EX1LE99-1LE1EX7FO1-1EX6LE2EX2-1EX4LE2NU10LE3-2LE1-15FO1LE1EX1LE30
  EX27-2LE89EX11LE1-14NU10LE33EX9LE2-2MN1-1LE1-2EX1-2LE22EX4LE1EX9LE1EX3LE1EX5-18LE25EX3-4LE11-5
  LE24-1LE6-1FO2-5EX9LE42EX24FO1EX33LE54EX3LE1EX18LE1EX7LE10EX2-2NU10-1LE16EX3-1LE8-2LE2-2LE22-1
  LE7-1LE1-3LE4-2EX1LE1EX7-2EX2-2EX3LE1-8EX1-4LE2-1LE3EX2-2NU10LE2-10LE1-1EX1-2EX3-1LE6-4LE2-2LE22
  -1LE7-1LE2-1LE2-1LE2-2EX1-1EX5-4EX2-2EX3-3EX1-7LE4-1LE1-7NU10EX2LE3EX1-11EX3-1LE9-1LE3-1LE22-1
  LE7-1LE2-1LE5-2EX1LE1EX8-1EX3-1EX3-2LE1-15LE2EX2-2NU10-9LE1EX6-1EX3-1LE8-2LE2-2LE22-1LE7-1LE2-1
  LE5-2EX1LE1EX7-2EX2-2EX3-7EX3-4LE2-1LE3EX2-2NU10-1LE1-16EX1LE1-1LE6-3LE3-1LE4-3LE2-1LE1-1LE2-3
  LE2-3LE3-3LE12-4EX5-3EX3-1EX4-2LE1-6EX1-14NU10-16EX5LE8-1LE3-1LE23-1LE16-2EX1LE1EX7-1EX3-1EX4-7
  EX2-1LE3-2LE1-2LE2EX2-2NU10-16LE1EX3-1LE8-1LE3-1LE23-1LE10-1LE5-2EX1LE1EX7-1EX3-1EX4-7EX2-6LE2-1
  LE2EX2-2NU10-1LE2EX1-12EX4LE9-1LE3-1LE41EX2LE1EX7-1EX3-1EX4LE1-5LE3EX1-7LE3EX2-2NU10-10LE6-1EX3
  -1LE18-3LE24-1LE9-1LE1-2LE7-3EX1-4EX6-1EX1-1EX8-6NU10-2EX2-61EX1-2EX7-12EX8-1NU10-87EX1-2EX9-11
  EX7-1NU10-38LE1-23EX2-6NU10-11EX1-1EX1-1EX1-4EX2LE8-1LE36-4EX20-1EX2LE5EX11-1EX36-9EX1-100EX20-1
  NU10-12EX4-4EX3-1EX3-2EX7-3EX4-13EX12-1EX1NU10EX4-2LE38-1LE1-5LE1-2LE43-1LE333-1LE4-2LE7-1LE1-1
  LE4-2LE41-1LE4-2LE33-1LE4-2LE7-1LE1-1LE4-2LE15-1LE57-1LE4-2LE67-2EX3-32LE16-16LE86-2LE6-3LE620-2
  LE17WS1LE26-5LE75-3LE11-7LE18EX4-9LE19EX3-11LE18EX2-12LE13-1LE3-1EX2-64EX32-9EX1-2NU10-33EX3FO1
  EX1NU10-6LE89-7LE5EX2LE34EX1LE1-5LE70-10LE31-1EX12-4EX12-10NU10-128NU10-38LE23EX5-57EX10-1EX29-2
  EX1NU10-6NU10-22EX31-49EX5LE47EX17LE8-3NU10-17EX9-12EX3LE30EX13LE2NU10LE44EX14-12LE36EX20-8NU10
  -3LE3NU10LE36-2LE11-5LE43-2LE3-16EX3-1EX21LE4EX1LE6EX1LE2EX3LE1-5LE192EX64LE278-2LE6-2LE38-2LE6
  -2LE8-1LE1-1LE1-1LE1-1LE31-2LE53-1LE7-1LE1-3LE3-1LE7-3LE4-2LE6-4LE13-5LE3-1LE7-3WS7-1WS3-1EX1
  ZWJ1FO2-8MB2-10MB1-2ML1NL2FO5ENL1-15ENL2-3MN1-15ENL1-10WS1FO5-1FO10-1LE1-13LE1-16LE13-51EX33-17
  LE1-4LE1-2LE10-1LE1-3LE5-6LE1-1LE1-1LE1-1LE4-1LE11-2LE4-5LE5-4LE1-17LE41-813LE52-1814LE229-6LE4
  EX3LE2-12LE38-1LE1-5LE1-2LE56-7LE1-15EX1LE23-9LE7-1LE7-1LE7-1LE7-1LE7-1LE7-1LE7-1LE7-1EX32-47LE1
  -464WS1-4LE1-36EX6-1KA5-5LE2-92EX2KA2-3KA91-1KA4-5LE43-1LE94-17LE32-48KA16-208KA47-1KA88-27816
  LE1165-67LE46-2LE269-3LE16NU10LE2-20LE47EX4-1EX10-1LE31EX2LE80EX2-22LE198-2LE2-1LE1-1LE8-21LE16
  EX1LE3EX1LE4EX1LE23EX5-4EX1-19LE52-12EX2LE50EX18-10NU10-6EX18LE6-3LE1-1LE2EX1NU10LE28EX8-2LE23
  EX13-12LE29-3EX4LE47EX14-14LE1NU10-11EX1-10NU10-6LE41EX14-9LE3EX1LE8EX2-2NU10-33EX3-50EX1-1EX3-2
  EX2-5EX2-1EX1-30LE11EX5-2LE3EX2-10LE6-2LE6-2LE6-9LE7-1LE7-1LE58-6LE115EX8-1EX2-2NU10-6LE11172-12
  LE23-4LE49-8964LE7-12LE5-5HL1EX1HL10-1HL13-1HL5-1HL1-1HL2-1HL2-1HL10LE98-33LE363-18LE64-2LE54-40
  LE12-4EX16MN1-2ML1MN1-11EX16-3ENL2-24ENL3MN1-1MB1-1MN1ML1-26LE5-1LE135-2FO1-7MB1-4MN1-1MB1-1NU10
  ML1MN1-5LE26-4ENL1-1LE26-11KA56EX2LE31-3LE6-2LE6-2LE6-2LE3-28FO3-4LE12-1LE26-1LE19-1LE2-1LE15-2
  LE14-34LE123-69LE53-136EX1-130LE29-3LE49-15EX1-31LE32-13LE30-5LE38EX5-5LE30-2LE36-4LE8-1LE5-42
  LE158-2NU10-6LE36-4LE36-4LE40-8LE52-12LE11-1LE15-1LE7-1LE2-1LE11-1LE15-1LE7-1LE2-3LE52-12LE311-9
  LE22-10LE8-24LE6-1LE42-1LE9-69LE6-2LE1-1LE44-1LE2-3LE1-2LE23-10LE23-9LE31-65LE19-1LE2-10LE22-10
  LE26-70LE56-6LE2-64LE1EX3-1EX2-5EX4LE4-1LE3-1LE29-2EX3-4EX1-32LE29-3LE29-35LE8-1LE28EX2-25LE54
  -10LE22-10LE19-13LE18-110LE73-55LE51-13LE51-13LE36EX4-8NU10-6NU10LE28-3EX5-1LE23-250LE42-1EX2-3
  LE2-16LE3-55EX4LE29-10LE1-8LE22EX11-31LE18EX4-42LE21-27LE23-9EX3LE53EX15-31NU10EX1LE2EX2LE1-9EX4
  LE45EX11-2FO1-4EX1-10FO1-2LE25-7NU10-6EX3LE36EX14-1NU10-4LE1EX2LE1-8LE35EX1-2LE1-9EX3LE48EX14LE4
  -4EX4-1EX2NU10LE1-1LE1-35LE18-1LE25EX12-6EX1LE2EX1-62LE7-1LE1-1LE4-1LE15-1LE10-7LE47EX12-5NU10-6
  EX4-1LE8-2LE2-2LE22-1LE7-1LE2-1LE5-1EX2LE1EX7-2EX2-2EX3-2LE1-6EX1-5LE5EX2-2EX7-3EX5-11LE10-1LE1
  -2LE1-1LE38-1LE1EX9-1EX1-2EX1-1EX4-1EX5LE1EX1LE1-13EX2-29LE53EX18LE4-5NU10-4EX1LE3-30LE48EX20LE2
  -1LE1-8NU10-166LE47EX7-2EX9-23LE4EX2-34LE48EX17-3LE1-11NU10-38LE43EX13LE1-7NU10-6NU20-57EX15-4
  NU10-198LE44EX15-101LE64NU10-21LE8-2LE1-2LE8-1LE2-1LE24EX6-1EX2-2EX4LE1EX1LE1EX2-12NU10-70LE8-2
  LE39EX7-2EX7LE1-1LE1EX1-27LE1EX10LE40EX7LE1EX4-8EX1-8LE1EX11LE46EX16-3LE1-18LE73-199LE33-15NU10
  -6LE9-1LE37EX8-1EX8LE1-15NU10-24LE30-2EX22-1EX14-73LE7-1LE2-1LE38EX6-3EX1-1EX2-1EX7LE1EX1-8NU10
  -6LE6-1LE2-1LE32EX5-1EX2-1EX5LE1-7NU10-310LE19EX4-9EX2LE1EX1LE13-1LE34EX7-3EX5-13NU10EX1-85LE1
  -79LE922-102LE111-17LE196-2636LE97-15LE1072FO16EX1LE6EX15-10LE3995-5LE583-6841LE30EX18NU10-1734
  LE569-7LE31-1NU10-6LE79-1NU10-6LE30-2EX5-11LE48EX7-9LE4-12NU10-9LE21-5LE19-432LE45-3NU10-198LE64
  -128LE75-4EX1LE1EX55-7EX4LE13-64LE2-1LE1EX1-11EX2-16382KA4-1KA7-1KA2-1KA1-287KA3-50KA1-14KA4
  -2712LE107-5LE13-3LE9-7LE10-3EX2-1FO4-4172NU10-518EX46-2EX23-542EX5-3EX6FO8EX8-2EX7-30EX4-148EX3
  -443LE85-1LE71-1LE2-2LE1-2LE2-2LE4-1LE12-1LE1-1LE7-1LE65-1LE4-2LE8-1LE7-1LE28-1LE4-1LE5-1LE1-3
  LE7-1LE340-2LE25-1LE25-1LE31-1LE25-1LE31-1LE25-1LE31-1LE25-1LE31-1LE25-1LE8-2NU50-512EX55-4EX50
  -8EX1-14EX1-22EX5-1EX15-1104LE31-6LE6-213EX7-1EX17-2EX7-1EX2-1EX5-5LE62-33EX1-112LE45-3EX7LE7-2
  NU10-4LE1-321LE30EX1-17LE44EX4NU10-470LE28EX4NU10-214LE30EX2LE1NU10-485LE7-1LE4-1LE2-1LE15-1
  LE197-11EX7-41LE68EX7LE1-4NU10-1190LE4-1LE27-1LE2-1LE1-2LE1-1LE10-1LE4-1LE1-1LE1-6LE1-4LE1-1LE1
  -1LE1-1LE3-1LE2-1LE1-2LE1-1LE1-1LE1-1LE1-1LE1-1LE2-1LE1-2LE4-1LE7-1LE4-1LE4-1LE1-1LE10-1LE17-5
  LE3-1LE5-1LE17-628LE26-6LE26-6LE26-92RI26-507EX5-2032NU10-787463FO1-30EX96-128EX240"

def wordBreakLetters? (name : String) : Option String :=
  match name with
  | "cr" => some "CR"
  | "dq" | "doublequote" => some "DQ"
  | "ex" | "extendnumlet" => some "ENL"
  | "extend" => some "EX"
  | "fo" | "format" => some "FO"
  | "hl" | "hebrewletter" => some "HL"
  | "ka" | "katakana" => some "KA"
  | "le" | "aletter" => some "LE"
  | "lf" => some "LF"
  | "mb" | "midnumlet" => some "MB"
  | "ml" | "midletter" => some "ML"
  | "mn" | "midnum" => some "MN"
  | "nl" | "newline" => some "NL"
  | "nu" | "numeric" => some "NU"
  | "ri" | "regionalindicator" => some "RI"
  | "sq" | "singlequote" => some "SQ"
  | "wsegspace" => some "WS"
  | "zwj" => some "ZWJ"
  | _ => none

def wordBreak? (name : String) : Option Ranges :=
  (wordBreakLetters? name).map (Run.withValue · wordBreakRuns)

end MagicRules.Unicode
