import A2dpSink.Bytes
import A2dpSink.Text.Quoted
import A2dpSink.Uuid

/-!
# SDP data elements

A data element is a typed value of the service discovery protocol: nothing, an integer of one of
five widths, a UUID, a truth value, a byte string, or a list of elements. This file holds the type,
equality, the views that records are read through, the nesting depth and the form shown in reports.
-/

namespace A2dpSink.Sdp

/-- The widths integers come in. -/
inductive Width where
  | w8
  | w16
  | w32
  | w64
  | w128
  deriving DecidableEq, Repr

namespace Width

/-- The number of bytes of an integer. -/
def bytes : Width → Nat
  | w8 => 1
  | w16 => 2
  | w32 => 4
  | w64 => 8
  | w128 => 16

/-- The number of bits of an integer. -/
def bits (w : Width) : Nat := 8 * w.bytes

end Width

/-- Whether a byte string is text or a link. -/
inductive StringKind where
  | text
  | url
  deriving DecidableEq, Repr

/-- Whether all members of a list are meant, or one of them. -/
inductive ListKind where
  | sequence
  | alternative
  deriving DecidableEq, Repr

/-- A typed value of the service discovery protocol. -/
inductive Element where
  | null
  | unsigned (w : Width) (value : BitVec w.bits)
  | signed (w : Width) (value : BitVec w.bits)
  | uuid (u : Uuid)
  | bool (b : Bool)
  | string (kind : StringKind) (content : Bytes)
  | list (kind : ListKind) (members : List Element)
  deriving Repr, Inhabited

namespace Element

/-- An unsigned integer of 16 bits. -/
abbrev u16 (n : BitVec 16) : Element := unsigned .w16 n

/-- An unsigned integer of 32 bits. -/
abbrev u32 (n : BitVec 32) : Element := unsigned .w32 n

/-- A list of which all members are meant. -/
abbrev sequence (members : List Element) : Element := list .sequence members

/-- A list of which one member is meant. -/
abbrev alternative (members : List Element) : Element := list .alternative members

/-! ### Equality -/

mutual

/-- Whether two elements are the same, widths and kinds included. -/
def same : Element → Element → Bool
  | null, null => true
  | unsigned w a, unsigned w' b => if h : w = w' then a == h ▸ b else false
  | signed w a, signed w' b => if h : w = w' then a == h ▸ b else false
  | uuid u, uuid u' => u == u'
  | bool b, bool b' => b == b'
  | string kind s, string kind' s' => kind == kind' && s == s'
  | list kind ms, list kind' ms' => kind == kind' && sameAll ms ms'
  | _, _ => false

/-- Whether two lists of elements are the same, member by member. -/
def sameAll : List Element → List Element → Bool
  | [], [] => true
  | m :: ms, m' :: ms' => same m m' && sameAll ms ms'
  | _, _ => false

end

mutual

private theorem eq_of_same : ∀ {a b : Element}, same a b = true → a = b
  | null, b, h => by cases b <;> simp_all [same]
  | unsigned w v, b, h => by
    cases b <;> simp [same] at h
    obtain ⟨rfl, h⟩ := h
    simpa using h
  | signed w v, b, h => by
    cases b <;> simp [same] at h
    obtain ⟨rfl, h⟩ := h
    simpa using h
  | uuid u, b, h => by cases b <;> simp_all [same]
  | bool v, b, h => by cases b <;> simp_all [same]
  | string kind s, b, h => by cases b <;> simp_all [same]
  | list kind ms, b, h => by
    cases b <;> simp [same] at h
    rw [h.1, eq_of_sameAll h.2]

private theorem eq_of_sameAll : ∀ {as bs : List Element}, sameAll as bs = true → as = bs
  | [], bs, h => by cases bs <;> simp_all [sameAll]
  | a :: as, bs, h => by
    cases bs <;> simp [sameAll] at h
    rw [eq_of_same h.1, eq_of_sameAll h.2]

end

mutual

private theorem same_self : ∀ a : Element, same a a = true
  | null => by simp [same]
  | unsigned w v => by simp [same]
  | signed w v => by simp [same]
  | uuid u => by simp [same]
  | bool v => by simp [same]
  | string kind s => by simp [same]
  | list kind ms => by simp [same, sameAll_self ms]

private theorem sameAll_self : ∀ as : List Element, sameAll as as = true
  | [] => by simp [sameAll]
  | a :: as => by simp [sameAll, same_self a, sameAll_self as]

end

instance : DecidableEq Element := fun a b =>
  if h : same a b = true then isTrue (eq_of_same h)
  else isFalse fun e => h (e ▸ same_self a)

/-! ### Views -/

/-- The value of an unsigned integer of at most 64 bits. -/
def toNat? : Element → Option Nat
  | unsigned .w128 _ => none
  | unsigned _ v => some v.toNat
  | _ => none

/-- The value of an unsigned integer of at most 64 bits, if 16 bits hold it. -/
def toU16? (e : Element) : Option (BitVec 16) :=
  e.toNat?.bind fun n => if n < 65536 then some (BitVec.ofNat 16 n) else none

/-- The UUID of an element that is one. -/
def toUuid? : Element → Option Uuid
  | uuid u => some u
  | _ => none

/-- The members of a list of either kind. -/
def members? : Element → Option (List Element)
  | list _ ms => some ms
  | _ => none

/-! ### Nesting -/

mutual

/-- How many lists stand around the deepest place inside an element, the element included. -/
def depth : Element → Nat
  | list _ ms => depthAll 0 ms + 1
  | _ => 0

/-- The greatest of a number and the depths of the given elements. -/
def depthAll (deepest : Nat) : List Element → Nat
  | [] => deepest
  | m :: ms => depthAll (max deepest m.depth) ms

end

/-- An element wrapped in `n` lists with one member each. -/
def nest (kind : ListKind) : Nat → Element → Element
  | 0, e => e
  | n + 1, e => nest kind n (list kind [e])

/-! ### The form shown in reports -/

/-- The name of an integer of a given width. -/
def integerName (stem : String) (w : Width) : String := stem ++ toString w.bits

mutual

/-- An element as it is shown in reports. -/
def describe : Element → String
  | null => "Nil"
  | unsigned w v => integerName "Uint" w ++ "(" ++ toString v.toNat ++ ")"
  | signed w v => integerName "Int" w ++ "(" ++ toString v.toInt ++ ")"
  | uuid u => u.describe
  | bool b => "Bool(" ++ (if b then "true" else "false") ++ ")"
  | string .text s => "String(" ++ Text.Quoted.ofBytes s ++ ")"
  | string .url s => "Url(" ++ Text.Quoted.ofBytes s ++ ")"
  | list .sequence ms => "Sequence([" ++ describeAll "" ms ++ "])"
  | list .alternative ms => "Alternative([" ++ describeAll "" ms ++ "])"

/-- Several elements with commas between, behind what is already written. -/
def describeAll (written : String) : List Element → String
  | [] => written
  | m :: ms =>
    describeAll (written ++ (if written.isEmpty then "" else ", ") ++ m.describe) ms

end

/-- A list of elements as it is shown in reports. -/
def describeList (ms : List Element) : String := "[" ++ describeAll "" ms ++ "]"

end Element

end A2dpSink.Sdp
