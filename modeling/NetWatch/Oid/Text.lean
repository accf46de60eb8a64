import NetWatch.Oid.Basic
import NetWatch.Text.Numeral

/-!
# Dotted text

One dot in front is allowed and means nothing. The whole text is kept in each error.
-/

namespace NetWatch.Oid

/-- The arcs between the dots, if each is a numeral of 32 bits. -/
def arcsOfText? (cs : List Char) : Option (List UInt32) :=
  (Text.splitAt '.' cs).mapM fun part => (Text.natural? UInt32.size part).map UInt32.ofNat

/-- The text behind one leading dot. -/
def dropDot : List Char → List Char
  | '.' :: rest => rest
  | cs => cs

/-- Reads dotted text: first that there is any, then each part, then `validate`. -/
def parse (cs : List Char) : Except OidProblem Oid :=
  let body := dropDot cs
  if body.isEmpty then .error .empty
  else match arcsOfText? body with
    | none => .error .invalidArc
    | some arcs => (validate ⟨arcs⟩).map fun _ => ⟨arcs⟩

def ofText (s : String) : Except Error Oid :=
  (parse s.toList).mapError fun problem => .invalidOid problem (some s)

end NetWatch.Oid
