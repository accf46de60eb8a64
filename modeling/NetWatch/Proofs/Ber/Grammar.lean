import Mathlib
import NetWatch.Ber.Integer
import NetWatch.Ber.Length
import NetWatch.Ber.Tag

/-!
# The grammar of elements

A grammar says which octet strings stand for which values, without saying how to read or to write
them. The rules here derive definite lengths, elements and the contents of the simple kinds of
value. Contents are derived from nothing but their own octets, so an element cannot reach beyond
the element around it.
-/

namespace NetWatch.Ber

/-- Octet strings, each with a value that it stands for. -/
abbrev Grammar (α : Type) := Octets → α → Prop

namespace Grammar

/-! ## Joining grammars -/

/-- An octet string of one grammar and then one of another, which may depend on the first value. -/
inductive Seq (g : Grammar α) (next : α → Grammar β) : Grammar β where
  | intro {front back : Octets} {a : α} {b : β} : g front a → next a back b →
      Seq g next (front ++ back) b

inductive Done (a : α) : Grammar α where
  | intro : Done a [] a

theorem Seq.last {g : Grammar α} {f : α → β} {d : Octets} {a : α} (h : g d a) :
    Seq g (fun a => Done (f a)) d (f a) := by
  rw [← List.append_nil d]
  exact .intro h .intro

inductive Many (g : Grammar α) : Grammar (List α) where
  | nil : Many g [] []
  | cons {front back : Octets} {a : α} {as : List α} : g front a → Many g back as →
      Many g (front ++ back) (a :: as)

/-! ## Elements -/

/-- A definite length: one octet below 128, or the count of one to four digits and the digits, which
may begin with zeros. -/
inductive DefiniteLength : Grammar Nat where
  | short {b : UInt8} : b < 0x80 → DefiniteLength [b] b.toNat
  | long {count : UInt8} {digits : Octets} : count.toNat = 0x80 + digits.length →
      1 ≤ digits.length → digits.length ≤ Length.maxOctets →
      DefiniteLength (count :: digits) (Octets.toNat digits)

/-- A tag, a definite length, and a content of exactly that many octets. -/
inductive Tlv (tag : Tag) (content : Grammar α) : Grammar α where
  | intro {length body : Octets} {a : α} : DefiniteLength length body.length → content body a →
      Tlv tag content (tag :: (length ++ body)) a

theorem Tlv.imp {tag : Tag} {g : Grammar α} {g' : Grammar β} {d : Octets} {a : α} {b : β}
    (h : Tlv tag g d a) (hg : ∀ c, g c a → g' c b) : Tlv tag g' d b := by
  cases h with
  | intro hl hc => exact .intro hl (hg _ hc)

theorem Tlv.head?_eq {tag : Tag} {g : Grammar α} {d : Octets} {a : α} (h : Tlv tag g d a) :
    d.head? = some tag := by
  cases h
  rfl

/-! ## Contents -/

/-- One to four octets in two's complement. -/
def integer32 : Grammar Int32 := fun content n =>
  1 ≤ content.length ∧ content.length ≤ 4 ∧ n.toInt = Integer.value content

/-- One to four octets in two's complement modulo 2^32, or a zero octet and four more. -/
def unsigned32 : Grammar UInt32 := fun content n =>
  (1 ≤ content.length ∧ content.length ≤ 4 ∨ content.length = 5 ∧ content.head? = some 0) ∧
    (n.toNat : Int) = Integer.value content % 2 ^ 32

/-- One to eight octets as a plain number, or a zero octet and eight more. -/
def unsigned64 : Grammar UInt64 := fun content n =>
  (1 ≤ content.length ∧ content.length ≤ 8 ∨ content.length = 9 ∧ content.head? = some 0) ∧
    n.toNat = Octets.toNat content

def octets : Grammar Octets := fun content data => content = data

def empty : Grammar Unit := fun content _ => content = []

def ipAddress : Grammar Net.Ipv4 := fun content ip => content = ip.octets

end Grammar

end NetWatch.Ber
