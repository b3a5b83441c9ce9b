import QuerySql.Options
import QuerySql.Toml.Parser

/-!
# Options in a configuration file

A configuration file is a TOML document. Its own entries of the right names are the options, the
others are passed over.

* `Options.ofConfig?` reads a text.
-/

namespace QuerySql

/-- Sets the option of the given name, if there is one. -/
def Options.setEntry? (o : Options) (key : String) (value : Toml) : Option Options :=
  if key = "withUnion" then
    match value with
    | .boolean b => some { o with withUnion := b }
    | _ => none
  else if key = "withSanitizedInjection" then
    match value with
    | .boolean b => some { o with withSanitizedInjection := b }
    | _ => none
  else if key = "maxDepth" then
    match value with
    | .integer n => if 0 ≤ n then some { o with maxDepth := n.toNat } else none
    | _ => none
  else some o

/-- The options that a configuration file gives; absent ones have their defaults. -/
def Options.ofConfig? (text : String) : Option Options := do
  (← Toml.parse? text).foldlM (fun o (key, value) => o.setEntry? key value) {}

end QuerySql
