import MagicRules.Unicode.Table

/-!
# Grapheme breaks

The classes of characters by which text is cut into what readers see as one character. A
character without a class breaks on both sides.
-/

namespace MagicRules.Unicode

def graphemeBreakRuns : List Run := runs
  "CN10LF1CN2CR1CN18-95CN33-13CN1-594EX112-275EX7-263EX45-1EX1-1EX2-1EX2-1EX1-56PP6-10EX11-1CN1-46
  EX21-16EX1-101EX7PP1-1EX6-2EX2-1EX4-33PP1-1EX1-30EX27-91EX11-58EX9-9EX1-24EX4-1EX9-1EX3-1EX5-43
  EX3-52PP2-5EX9-42EX24PP1EX32SM1-54EX1SM1EX1-1SM3EX8SM4EX1SM2-1EX7-10EX2-29EX1SM2-56EX1-1EX1SM2
  EX4-2SM2-2SM2EX1-9EX1-10EX2-26EX1-2EX2SM1-56EX1-1SM3EX2-4EX2-2EX3-3EX1-30EX2-3EX1-11EX2SM1-56EX1
  -1SM3EX5-1EX2SM1-1SM2EX1-20EX2-22EX6-1EX1SM2-56EX1-1EX2SM1EX4-2SM2-2SM2EX1-7EX3-10EX2-30EX1-59
  EX1SM1EX1SM2-3SM3-1SM3EX1-9EX1-40EX1SM3EX1-55EX1-1EX3SM4-1EX3-1EX4-7EX2-11EX2-29EX1SM2-56EX1-1
  SM1EX2SM1EX1SM2-1EX3-1EX4-7EX2-11EX2-15SM1-12EX2SM2-55EX2-1EX1SM2EX4-1SM3-1SM3EX1PP1-8EX1-10EX2
  -29EX1SM2-70EX1-4EX1SM2EX3-1EX1-1SM7EX1-18SM2-61EX1-1SM1EX7-12EX8-98EX1-1SM1EX9-11EX7-73EX2-27
  EX1-1EX1-1EX1-4SM2-49EX14SM1EX5-1EX2-5EX11-1EX36-9EX1-102EX4SM1EX6-1EX2SM2EX2-23SM2EX2-4EX3-16
  EX4-13EX1-1SM1EX2-6EX1-15EX1-98L96V72T88-349EX3-946EX4-28EX3-29EX2-30EX2-64EX2SM1EX7SM8EX1SM2
  EX11-9EX1-45EX3CN1EX1-117EX2-34EX1-118EX3SM4EX2SM3-4SM2EX1SM6EX3-219EX2SM2EX1-57SM1EX1SM1EX7-1
  EX1-1EX1-2EX8SM6EX10-2EX1-48EX31-49EX4SM1-47EX10SM4EX3-38EX9-12EX2SM1-30SM1EX4SM2EX6-56EX1SM1EX2
  SM3EX1SM1EX5-48SM8EX8SM2EX2-152EX3-1EX13SM1EX7-4EX1-6EX1-2SM1EX2-198EX64-523CN1EX1ZWJ1CN2-24CN7
  -49CN16-96EX33-3070EX3-141EX1-96EX32-554EX6-105EX2-30164EX4-1EX10-32EX2-80EX2-272EX1-3EX1-4EX1
  -23SM2EX2SM1-4EX1-83SM2-50SM16EX2-26EX18-13EX1-38EX8-25EX11SM1EX1-12L29-3EX3SM1-47EX1SM2EX4SM2
  EX2SM2EX1-36EX1-67EX6SM2EX2SM2EX2-12EX1-8EX1SM1-46EX1-51EX1-1EX3-2EX2-5EX2-1EX1-41SM1EX2SM2-5SM1
  EX1-236SM2EX1SM2EX1SM2-1SM1EX1-18LV1LVT27LV1LVT27LV1LVT27LV1LVT27LV1LVT27LV1LVT27LV1LVT27LV1
  LVT27LV1LVT27LV1LVT27LV1LVT27LV1LVT27LV1LVT27LV1LVT27LV1LVT27LV1LVT27LV1LVT27LV1LVT27LV1LVT27LV1
  LVT27LV1LVT27LV1LVT27LV1LVT27LV1LVT27LV1LVT27LV1LVT27LV1LVT27LV1LVT27LV1LVT27LV1LVT27LV1LVT27LV1
  LVT27LV1LVT27LV1LVT27LV1LVT27LV1LVT27LV1LVT27LV1LVT27LV1LVT27LV1LVT27LV1LVT27LV1LVT27LV1LVT27LV1
  LVT27LV1LVT27LV1LVT27LV1LVT27LV1LVT27LV1LVT27LV1LVT27LV1LVT27LV1LVT27LV1LVT27LV1LVT27LV1LVT27LV1
  LVT27LV1LVT27LV1LVT27LV1LVT27LV1LVT27LV1LVT27LV1LVT27LV1LVT27LV1LVT27LV1LVT27LV1LVT27LV1LVT27LV1
  LVT27LV1LVT27LV1LVT27LV1LVT27LV1LVT27LV1LVT27LV1LVT27LV1LVT27LV1LVT27LV1LVT27LV1LVT27LV1LVT27LV1
  LVT27LV1LVT27LV1LVT27LV1LVT27LV1LVT27LV1LVT27LV1LVT27LV1LVT27LV1LVT27LV1LVT27LV1LVT27LV1LVT27LV1
  LVT27LV1LVT27LV1LVT27LV1LVT27LV1LVT27LV1LVT27LV1LVT27LV1LVT27LV1LVT27LV1LVT27LV1LVT27LV1LVT27LV1
  LVT27LV1LVT27LV1LVT27LV1LVT27LV1LVT27LV1LVT27LV1LVT27LV1LVT27LV1LVT27LV1LVT27LV1LVT27LV1LVT27LV1
  LVT27LV1LVT27LV1LVT27LV1LVT27LV1LVT27LV1LVT27LV1LVT27LV1LVT27LV1LVT27LV1LVT27LV1LVT27LV1LVT27LV1
  LVT27LV1LVT27LV1LVT27LV1LVT27LV1LVT27LV1LVT27LV1LVT27LV1LVT27LV1LVT27LV1LVT27LV1LVT27LV1LVT27LV1
  LVT27LV1LVT27LV1LVT27LV1LVT27LV1LVT27LV1LVT27LV1LVT27LV1LVT27LV1LVT27LV1LVT27LV1LVT27LV1LVT27LV1
  LVT27LV1LVT27LV1LVT27LV1LVT27LV1LVT27LV1LVT27LV1LVT27LV1LVT27LV1LVT27LV1LVT27LV1LVT27LV1LVT27LV1
  LVT27LV1LVT27LV1LVT27LV1LVT27LV1LVT27LV1LVT27LV1LVT27LV1LVT27LV1LVT27LV1LVT27LV1LVT27LV1LVT27LV1
  LVT27LV1LVT27LV1LVT27LV1LVT27LV1LVT27LV1LVT27LV1LVT27LV1LVT27LV1LVT27LV1LVT27LV1LVT27LV1LVT27LV1
  LVT27LV1LVT27LV1LVT27LV1LVT27LV1LVT27LV1LVT27LV1LVT27LV1LVT27LV1LVT27LV1LVT27LV1LVT27LV1LVT27LV1
  LVT27LV1LVT27LV1LVT27LV1LVT27LV1LVT27LV1LVT27LV1LVT27LV1LVT27LV1LVT27LV1LVT27LV1LVT27LV1LVT27LV1
  LVT27LV1LVT27LV1LVT27LV1LVT27LV1LVT27LV1LVT27LV1LVT27LV1LVT27LV1LVT27LV1LVT27LV1LVT27LV1LVT27LV1
  LVT27LV1LVT27LV1LVT27LV1LVT27LV1LVT27LV1LVT27LV1LVT27LV1LVT27LV1LVT27LV1LVT27LV1LVT27LV1LVT27LV1
  LVT27LV1LVT27LV1LVT27LV1LVT27LV1LVT27LV1LVT27LV1LVT27LV1LVT27LV1LVT27LV1LVT27LV1LVT27LV1LVT27LV1
  LVT27LV1LVT27LV1LVT27LV1LVT27LV1LVT27LV1LVT27LV1LVT27LV1LVT27LV1LVT27LV1LVT27LV1LVT27LV1LVT27LV1
  LVT27LV1LVT27LV1LVT27LV1LVT27LV1LVT27LV1LVT27LV1LVT27LV1LVT27LV1LVT27LV1LVT27LV1LVT27LV1LVT27LV1
  LVT27LV1LVT27LV1LVT27LV1LVT27LV1LVT27LV1LVT27LV1LVT27LV1LVT27LV1LVT27LV1LVT27LV1LVT27LV1LVT27LV1
  LVT27LV1LVT27LV1LVT27LV1LVT27LV1LVT27LV1LVT27LV1LVT27LV1LVT27LV1LVT27LV1LVT27LV1LVT27LV1LVT27LV1
  LVT27LV1LVT27LV1LVT27LV1LVT27LV1LVT27LV1LVT27LV1LVT27LV1LVT27LV1LVT27LV1LVT27LV1LVT27LV1LVT27LV1
  LVT27LV1LVT27LV1LVT27LV1LVT27LV1LVT27LV1LVT27LV1LVT27LV1LVT27LV1LVT27LV1LVT27LV1LVT27LV1LVT27LV1
  LVT27LV1LVT27LV1LVT27LV1LVT27LV1LVT27LV1LVT27LV1LVT27LV1LVT27LV1LVT27LV1LVT27LV1LVT27LV1LVT27LV1
  LVT27LV1LVT27LV1LVT27LV1LVT27LV1LVT27LV1LVT27LV1LVT27LV1LVT27LV1LVT27LV1LVT27LV1LVT27LV1LVT27LV1
  LVT27LV1LVT27LV1LVT27LV1LVT27LV1LVT27LV1LVT27LV1LVT27LV1LVT27LV1LVT27LV1LVT27LV1LVT27LV1LVT27LV1
  LVT27LV1LVT27LV1LVT27LV1LVT27LV1LVT27LV1LVT27LV1LVT27LV1LVT27LV1LVT27LV1LVT27LV1LVT27LV1LVT27LV1
  LVT27LV1LVT27LV1LVT27LV1LVT27LV1LVT27LV1LVT27LV1LVT27LV1LVT27LV1LVT27LV1LVT27LV1LVT27LV1LVT27LV1
  LVT27LV1LVT27LV1LVT27LV1LVT27LV1LVT27LV1LVT27LV1LVT27LV1LVT27LV1LVT27LV1LVT27LV1LVT27LV1LVT27LV1
  LVT27LV1LVT27LV1LVT27LV1LVT27LV1LVT27LV1LVT27LV1LVT27LV1LVT27-12V23-4T49-8994EX1-737EX16-16EX16
  -207CN1-158EX2-80CN12-513EX1-226EX1-149EX5-1670EX3-1EX2-5EX4-40EX3-4EX1-165EX2-573EX4-65EX5-317
  EX2-79EX4-70EX11-49EX4-122SM1EX1SM1-53EX15-41EX1-2EX2-10EX3SM1-45SM3EX4SM2EX2-2PP1-4EX1-10PP1-50
  EX3-36EX5SM1EX8-16SM2-44EX1-12EX2SM1-48SM3EX9SM1EX1-1PP2-5EX4-1SM1EX1-92SM3EX3SM2EX4-6EX1-2EX1
  -157EX1SM3EX8-21EX2SM2-55EX2-1EX1SM1EX1SM4-2SM2-2SM2EX1-9EX1-10SM2-2EX7-3EX5-67EX1SM2EX6-1EX1-2
  EX1-1EX3SM1-1SM2EX3PP1EX1-14EX2-82SM3EX8SM2EX3SM1EX1-23EX1-81EX1SM2EX6SM1EX1SM2EX1SM1EX2SM1EX2
  -235EX1SM2EX4-2SM4EX2SM1EX2-27EX2-82SM3EX8SM2EX1SM1EX2-106EX1SM1EX1SM2EX8-101EX1SM1EX1-2EX4SM1
  EX5-256SM3EX9SM1EX2-245EX1SM5-1SM2-2EX4PP1SM1PP1SM1EX1-141SM3EX4-2EX2SM4EX1-3SM1-28EX10-40EX6SM1
  PP1EX4-8EX1-9EX6SM2EX3-40PP6EX13SM1EX2-405SM1EX7-1EX6SM1EX1-82EX22-1SM1EX7SM1EX2SM1EX2-122EX6-3
  EX1-1EX2-1EX7PP1EX1-66SM5-1EX2-1SM2EX1SM1EX1-347EX2SM2-9EX2PP1SM1-48SM2EX5-3SM2EX3-23EX1-5333
  CN16EX1-6EX15-11464EX12SM3EX3-2496EX5-59EX7-556V1-3V4-484EX1-1SM55-7EX4-81EX1-11EX2-19627EX2-1
  CN4-4700EX46-2EX23-542EX5-3EX6CN8EX8-2EX7-30EX4-148EX3-1979EX55-4EX50-8EX1-14EX1-22EX5-1EX15
  -1360EX7-1EX17-2EX7-1EX2-1EX5-100EX1-160EX7-375EX1-61EX4-508EX4-254EX2-736EX7-109EX7-2203RI26
  -507EX5-789504CN32EX96CN128EX240CN3600"

def graphemeBreakLetters? (name : String) : Option String :=
  match name with
  | "cn" | "control" => some "CN"
  | "cr" => some "CR"
  | "ex" | "extend" => some "EX"
  | "l" => some "L"
  | "lf" => some "LF"
  | "lv" => some "LV"
  | "lvt" => some "LVT"
  | "pp" | "prepend" => some "PP"
  | "ri" | "regionalindicator" => some "RI"
  | "sm" | "spacingmark" => some "SM"
  | "t" => some "T"
  | "v" => some "V"
  | "zwj" => some "ZWJ"
  | _ => none

def graphemeBreak? (name : String) : Option Ranges :=
  (graphemeBreakLetters? name).map (Run.withValue · graphemeBreakRuns)

end MagicRules.Unicode
