import A2dpSink.Proofs.Sdp.Element.RoundTrip
import A2dpSink.Sdp.Record

/-!
# Attribute lists read back

The records of a server are written as one sequence with a sequence of alternating numbers and values
for each record. Written so, and no deeper than a reader follows, they are read back as the records
with just these attributes, in their order (`Record.parseLists_lists`).
-/

namespace A2dpSink.Sdp

namespace Attributes

/-- The flat list of alternating numbers and values that attributes are written as. -/
def members (a : Attributes) : List Element := a.flatMap fun (id, value) => [.u16 id, value]

/-- The attribute list of one record. -/
def toElement (a : Attributes) : Element := .sequence a.members

/-- The attribute lists of some records, as an answer holds them. -/
def lists (records : List Attributes) : Element := .sequence (records.map toElement)

private theorem ofElementsOnto_members (found a : Attributes) :
    ofElementsOnto found a.members = some (found.reverse ++ a) := by
  induction a generalizing found with
  | nil => simp [members, ofElementsOnto]
  | cons pair a ih =>
    have step : ofElementsOnto found (members (pair :: a)) =
        ofElementsOnto ((pair.1, pair.2) :: found) (members a) := rfl
    rw [step, ih, List.reverse_cons, List.append_assoc]
    rfl

/-- Attributes are read back from the members of their list. -/
theorem ofElements?_members (a : Attributes) : ofElements? a.members = some a :=
  ofElementsOnto_members [] a

end Attributes

/-- An element whose written form is short enough for a size field has only strings and lists that
are. -/
theorem Element.fits_of_encodedLen_le {e : Element} (short : e.encodedLen ≤ sizeLimit) :
    e.fits = true := by
  induction e using members_induction with
  | leaf e leaf =>
    cases e with
    | string kind s =>
      have data := dataLen_le_encodedLen (Element.string kind s)
      exact decide_eq_true (Nat.le_trans data short)
    | list kind ms => simp [members?] at leaf
    | _ => rfl
  | node kind ms ih =>
    have data := dataLen_le_encodedLen (Element.list kind ms)
    refine fits_list_iff.mpr ⟨Nat.le_trans data short, ?_⟩
    intro m there
    apply ih m there
    have part : m.encodedLen ≤ (Element.list kind ms).dataLen := by
      rw [dataLen_list]
      exact List.le_sum_of_mem (List.mem_map_of_mem there)
    exact Nat.le_trans part (Nat.le_trans data short)

namespace Record

/-- A record is read from the list of its attributes. -/
theorem ofElement?_toElement (a : Attributes) :
    ofElement? a.toElement = some (ofAttributes a) := by
  simp [ofElement?, Attributes.toElement, Attributes.ofElements?_members]

/-- Records are read from the lists of their attributes, in order. -/
theorem mapM_ofElement? (records : List Attributes) :
    (records.map Attributes.toElement).mapM ofElement? = some (records.map ofAttributes) := by
  induction records with
  | nil => rfl
  | cons a records ih => simp [ofElement?_toElement, ih]

/-- Attribute lists are read back as the records they were written for, whatever stands behind them,
if they fit their size fields and do not stand too deep. -/
theorem parseLists_lists_append {records : List Attributes}
    (fits : (Attributes.lists records).fits = true)
    (shallow : (Attributes.lists records).depth ≤ maxNesting) (rest : Bytes) :
    parseLists ((Attributes.lists records).encode ++ rest) = .ok (records.map ofAttributes) := by
  rw [parseLists, Element.decode_of_shallow fits shallow rest]
  simp only [Attributes.lists, mapM_ofElement?]

/-- Attribute lists that are short enough as a whole are read back. -/
theorem parseLists_lists {records : List Attributes}
    (short : (Attributes.lists records).encodedLen ≤ Element.sizeLimit)
    (shallow : (Attributes.lists records).depth ≤ maxNesting) :
    parseLists (Attributes.lists records).encode = .ok (records.map ofAttributes) := by
  have read := parseLists_lists_append (Element.fits_of_encodedLen_le short) shallow []
  rwa [List.append_nil] at read

end Record

end A2dpSink.Sdp
