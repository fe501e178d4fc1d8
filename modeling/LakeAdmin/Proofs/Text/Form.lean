import LakeAdmin.Proofs.Text.Percent
import LakeAdmin.Text.Form

/-!
Forms are read as they were written. A name or value that is encoded holds no separator of a
form, so the form is cut where its parts were put together, and each part is decoded to what
it was.
-/

namespace LakeAdmin.Text.Form

/-- What is kept when a form is read: a space too, once it stands in for its plus sign. -/
def isKept (c : Char) : Bool := Percent.isUnreserved c || c == ' '

theorem triple_plus {c : Char} (h : Percent.isTripleChar c = true) : c ≠ '+' := by
  rintro rfl
  revert h
  decide

theorem encodeChar_plain (c : Char) :
    (encodeChar c).map (fun d => if d = '+' then ' ' else d) = Percent.encodeChar isKept c := by
  by_cases blank : c = ' '
  · subst blank
    decide
  · have same : Percent.encodeChar isKept c = Percent.encodeChar Percent.isUnreserved c := by
      simp [Percent.encodeChar, isKept, blank]
    unfold encodeChar
    rw [if_neg blank, same]
    have plusless : ∀ d ∈ Percent.encodeChar Percent.isUnreserved c, d ≠ '+' := by
      intro d hd
      unfold Percent.encodeChar at hd
      split at hd
      · rename_i kept
        rw [List.mem_singleton] at hd
        subst hd
        rintro rfl
        revert kept
        decide
      · obtain ⟨b, -, hb⟩ := List.mem_flatMap.mp hd
        exact triple_plus (Percent.tripleChar_of_mem_encodeByte hb)
    refine (List.map_congr_left fun d hd => ?_).trans (List.map_id _)
    exact if_neg (plusless d hd)

/-- A name or value that is written in a form is read from there again. -/
theorem decodeText_encodeText (s : String) : decodeText (encodeText s).toList = s := by
  have plain : (encodeText s).toList.map (fun d => if d = '+' then ' ' else d) =
      (Percent.encode isKept s).toList := by
    unfold encodeText Percent.encode
    rw [String.toList_ofList, String.toList_ofList, List.map_flatMap]
    exact congrArg (s.toList.flatMap ·) (funext encodeChar_plain)
  unfold decodeText
  rw [plain, String.ofList_toList]
  exact Percent.decode_encode (by decide) s

/-- The characters of an encoded name or value. None of them parts a form or ends a query. -/
def isFormChar (c : Char) : Bool :=
  Percent.isUnreserved c || Percent.isTripleChar c || c == '+'

theorem encodeText_form {s : String} : ∀ c ∈ (encodeText s).toList, isFormChar c = true := by
  intro c hc
  unfold encodeText at hc
  rw [String.toList_ofList] at hc
  obtain ⟨d, -, hc⟩ := List.mem_flatMap.mp hc
  unfold isFormChar
  unfold encodeChar at hc
  split at hc
  · rw [List.mem_singleton] at hc
    simp [hc]
  · unfold Percent.encodeChar at hc
    split at hc
    · rename_i kept
      rw [List.mem_singleton] at hc
      simp [hc, kept]
    · obtain ⟨b, -, hb⟩ := List.mem_flatMap.mp hc
      simp [Percent.tripleChar_of_mem_encodeByte hb]

/-- What an encoded name or value may not hold is not in it. -/
theorem encodeText_free {s : String} {c : Char} (h : isFormChar c = false) :
    c ∉ (encodeText s).toList := by
  intro hc
  rw [encodeText_form c hc] at h
  cases h

theorem encodePair_toList (pair : String × String) :
    (encodePair pair).toList = (encodeText pair.1).toList ++ '=' :: (encodeText pair.2).toList := by
  simp [encodePair]

theorem decodePair_encodePair (pair : String × String) :
    decodePair (encodePair pair).toList = pair := by
  have separate : '=' ∉ (encodeText pair.1).toList := encodeText_free (by decide)
  unfold decodePair
  rw [encodePair_toList, cutFirst_append separate]
  dsimp only [Option.getD_some]
  rw [decodeText_encodeText, decodeText_encodeText]

/-- A form holds no number sign. -/
theorem encode_free (pairs : List (String × String)) : '#' ∉ (encode pairs).toList := by
  unfold encode
  rw [intercalate_joinWith (show "&".toList = ['&'] from rfl)]
  intro held
  obtain mark | ⟨part, hp, hc⟩ := mem_joinWith held
  · cases mark
  · obtain ⟨text, ht, rfl⟩ := List.mem_map.mp hp
    obtain ⟨pair, -, rfl⟩ := List.mem_map.mp ht
    rw [encodePair_toList, List.mem_append, List.mem_cons] at hc
    rcases hc with hc | hc | hc
    · exact encodeText_free (by decide) hc
    · cases hc
    · exact encodeText_free (by decide) hc

/-- Named values that are written as a form are read from there again. -/
theorem decode_encode (pairs : List (String × String)) : decode (encode pairs) = pairs := by
  have filled (pair : String × String) : (encodePair pair).toList.isEmpty = false := by
    rw [encodePair_toList]
    simp
  have separate : ∀ part ∈ (pairs.map encodePair).map String.toList, '&' ∉ part := by
    intro part hp
    obtain ⟨text, ht, rfl⟩ := List.mem_map.mp hp
    obtain ⟨pair, -, rfl⟩ := List.mem_map.mp ht
    rw [encodePair_toList, List.mem_append, List.mem_cons, not_or, not_or]
    exact ⟨encodeText_free (by decide), by decide, encodeText_free (by decide)⟩
  have parts : (splitAt '&' (encode pairs).toList).filter (!·.isEmpty) =
      (pairs.map encodePair).map String.toList := by
    unfold encode
    rw [intercalate_joinWith (show "&".toList = ['&'] from rfl)]
    cases pairs with
    | nil => rfl
    | cons pair rest =>
      rw [splitAt_joinWith (by simp) separate, List.filter_eq_self]
      intro part hp
      obtain ⟨text, ht, rfl⟩ := List.mem_map.mp hp
      obtain ⟨pair, -, rfl⟩ := List.mem_map.mp ht
      rw [filled]
      rfl
  unfold decode
  rw [parts, List.map_map, List.map_map]
  refine (List.map_congr_left fun pair _ => ?_).trans (List.map_id _)
  exact decodePair_encodePair pair

end LakeAdmin.Text.Form
