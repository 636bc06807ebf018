import MagicRules.Test

/-!
# Registries of types

A registry tells which type a name stands for. The builtin one knows the types of magic files.
Names are complete: neither modifiers nor the mark of an unsigned type belong to them.
-/

namespace MagicRules

structure Registry where
  resolve? : Text → Option MagicType

namespace Registry

/-- The registry of a list of types; the first of those that share a name is found. -/
def ofList (types : List MagicType) : Registry where
  resolve? name := types.find? (·.name = name)

def builtinKinds : List (String × Kind) :=
  [("byte", .integer 1 .native),
   ("short", .integer 2 .native),
   ("long", .integer 4 .native),
   ("quad", .integer 8 .native),
   ("beshort", .integer 2 .big),
   ("belong", .integer 4 .big),
   ("bequad", .integer 8 .big),
   ("leshort", .integer 2 .little),
   ("lelong", .integer 4 .little),
   ("lequad", .integer 8 .little),
   ("melong", .integer 4 .middle),
   ("date", .date 4 .native false),
   ("ldate", .date 4 .native true),
   ("bedate", .date 4 .big false),
   ("beldate", .date 4 .big true),
   ("ledate", .date 4 .little false),
   ("leldate", .date 4 .little true),
   ("medate", .date 4 .middle false),
   ("meldate", .date 4 .middle true),
   ("qdate", .date 8 .native false),
   ("qldate", .date 8 .native true),
   ("beqdate", .date 8 .big false),
   ("beqldate", .date 8 .big true),
   ("leqdate", .date 8 .little false),
   ("leqldate", .date 8 .little true),
   ("float", .float 4 .native),
   ("befloat", .float 4 .big),
   ("lefloat", .float 4 .little),
   ("double", .float 8 .native),
   ("bedouble", .float 8 .big),
   ("ledouble", .float 8 .little),
   ("beid3", .synchsafe .big),
   ("leid3", .synchsafe .little),
   ("string", .string),
   ("pstring", .pstring),
   ("search", .search),
   ("bestring16", .string16 .big),
   ("lestring16", .string16 .little),
   ("regex", .regex),
   ("default", .default),
   ("clear", .clear),
   ("name", .name),
   ("use", .use),
   ("indirect", .indirect),
   ("offset", .offset),
   ("der", .der),
   ("guid", .guid)]

def builtin : Registry :=
  ofList (builtinKinds.map fun (name, kind) => { name := name.toList, kind })

end Registry

end MagicRules
