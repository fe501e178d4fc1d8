import LakeAdmin.Proofs.Url.Reading

/-!
Writing URLs and reading them again. The authority of a URL is cut where its parts were
put together, so a host that is read again from its own text is the same but for the case
of letters.
-/

namespace LakeAdmin.Url

open Text

/-! ## Authorities -/

def hostText (host : String) : List Char :=
  if host.toList.contains ':' then '[' :: (host.toList ++ [']']) else host.toList

def portText : Option Int → List Char
  | none => []
  | some n => ':' :: (toString n).toList

def isPortChar (c : Char) : Bool := c == ':' || c == '-' || c.isDigit

theorem authority_toList (u : Url) :
    u.authority.toList = (if u.userInfo = "" then [] else u.userInfo.toList ++ ['@']) ++
      (hostText u.host ++ portText u.port) := by
  unfold authority hostText
  rw [String.toList_append, String.toList_append, List.append_assoc]
  congr 1
  · split <;> simp
  · congr 1
    · split <;> simp
    · cases u.port <;> simp [portText]

theorem portText_chars (port : Option Int) : ∀ c ∈ portText port, isPortChar c = true := by
  have digits (n : Nat) : ∀ c ∈ n.repr.toList, isPortChar c = true := by
    intro c hc
    rw [Nat.toList_repr] at hc
    simp [isPortChar, Nat.isDigit_of_mem_toDigits (by decide) (by decide) hc]
  cases port with
  | none => simp [portText]
  | some n =>
    intro c hc
    rcases List.mem_cons.mp hc with rfl | hc
    · rfl
    · cases n with
      | ofNat n => exact digits n c hc
      | negSucc n =>
        have text : (toString (Int.negSucc n)).toList = '-' :: (n + 1).repr.toList := by
          change ("-" ++ (n + 1).repr).toList = _
          simp
        rw [text] at hc
        rcases List.mem_cons.mp hc with rfl | hc
        · rfl
        · exact digits (n + 1) c hc

/-- A name holds no colon, so its text is the name. -/
theorem hostText_plain {host : String} (chars : ∀ c ∈ host.toList, isHostChar c = true) :
    hostText host = host.toList := by
  have colon : ':' ∉ host.toList := not_mem_of_keep chars (by decide)
  unfold hostText
  rw [if_neg (by simpa using colon)]

theorem hostText_bracketed {host : String} (h : Bracketed host) :
    hostText host = '[' :: (host.toList ++ [']']) := by
  unfold hostText
  rw [if_pos (by simpa using h.colon)]

/-- The text of a host ends neither user information nor an authority. -/
theorem hostText_outside {u : Url} (h : u.Written) :
    ∀ c ∈ hostText u.host, c ≠ '@' ∧ endsAuthority c = false := by
  rcases h.host with plain | bracketed
  · rw [hostText_plain plain]
    intro c hc
    refine ⟨?_, ?_⟩
    · rintro rfl
      exact not_mem_of_keep plain (by decide) hc
    · exact isAuthority_of_keep plain (by decide) c hc
  · rw [hostText_bracketed bracketed]
    intro c hc
    simp only [List.mem_cons, List.mem_append, List.not_mem_nil, or_false] at hc
    rcases hc with rfl | hc | rfl
    · decide
    · exact bracketed.outside c hc
    · decide

/-- Nothing in an authority ends it. -/
theorem authority_isAuthority {u : Url} (h : u.Written) : IsAuthority u.authority.toList := by
  intro c hc
  rw [authority_toList, List.mem_append, List.mem_append] at hc
  rcases hc with hc | hc | hc
  · split at hc
    · cases hc
    · rcases List.mem_append.mp hc with hc | hc
      · exact isAuthority_of_keep h.user (by decide) c hc
      · rw [List.mem_singleton] at hc
        subst hc
        rfl
  · exact (hostText_outside h c hc).2
  · exact isAuthority_of_keep (portText_chars u.port) (by decide) c hc

theorem portText_head (port : Option Int) :
    portText port = [] ∨ (portText port).head? = some ':' := by
  cases port with
  | none => exact .inl rfl
  | some n => exact .inr rfl

/-- An authority that is written is cut where its parts were put together. -/
theorem cutHost_authority {u : Url} (h : u.Written) :
    cutHost u.authority.toList = (u.userInfo.toList, hostText u.host, (portText u.port).drop 1) := by
  have place : '@' ∉ hostText u.host ++ portText u.port := by
    rw [List.mem_append, not_or]
    exact ⟨fun hm => (hostText_outside h _ hm).1 rfl,
      not_mem_of_keep (portText_chars u.port) (by decide)⟩
  have user : (cutLast? '@' u.authority.toList).getD ([], u.authority.toList) =
      (u.userInfo.toList, hostText u.host ++ portText u.port) := by
    rw [authority_toList]
    by_cases hu : u.userInfo = ""
    · rw [if_pos hu, List.nil_append, cutLast_none place, hu]
      rfl
    · rw [if_neg hu, List.append_assoc, List.singleton_append, cutLast_append _ place]
      rfl
  have behind : (if (portText u.port).head? = some ':' then (portText u.port).drop 1
      else portText u.port) = (portText u.port).drop 1 := by
    rcases portText_head u.port with none | colon
    · simp [none]
    · rw [if_pos colon]
  unfold cutHost
  rw [user]
  dsimp only
  rcases h.host with plain | bracketed
  · rw [hostText_plain plain]
    have bracket : '[' ∉ u.host.toList ++ portText u.port := by
      rw [List.mem_append, not_or]
      exact ⟨not_mem_of_keep plain (by decide),
        not_mem_of_keep (portText_chars u.port) (by decide)⟩
    have inside : ∀ c ∈ u.host.toList, (c ≠ ':' && c ≠ '@') = true := by
      intro c hc
      have colon : c ≠ ':' := fun he => not_mem_of_keep plain (by decide) (he ▸ hc)
      have at' : c ≠ '@' := fun he => not_mem_of_keep plain (by decide) (he ▸ hc)
      simp [colon, at']
    split
    · rename_i first _
      exact absurd (List.mem_of_mem_head? first) bracket
    · rw [List.takeWhile_append_of_pos inside, List.dropWhile_append_of_pos inside]
      rcases portText_head u.port with none | colon
      · simp [none]
      · cases hp : portText u.port with
        | nil =>
          rw [hp] at colon
          cases colon
        | cons c rest =>
          rw [hp] at colon
          cases colon
          simp
  · rw [hostText_bracketed bracketed]
    have whole : '[' :: (u.host.toList ++ [']']) ++ portText u.port =
        ('[' :: u.host.toList) ++ ']' :: portText u.port := by simp
    rw [whole, cutLast_append _ (not_mem_of_keep (portText_chars u.port) (by decide))]
    exact congrArg (fun rest => (u.userInfo.toList, '[' :: (u.host.toList ++ [']']), rest)) behind

/-- A host that is read again is the same host, or the same in small letters. -/
theorem host_again {u v : Url} {parts : Parts} (h : u.Written) (made : FromParts parts v)
    (same : parts.authority = u.authority.toList) :
    v.host = u.host ∨ v.host = lowerAscii u.host := by
  have read := made.host
  rw [same, cutHost_authority h] at read
  dsimp only at read
  rcases h.host with plain | bracketed
  · rw [hostText_plain plain] at read
    exact .inr (encodeHost_again plain read)
  · rw [hostText_bracketed bracketed, bracketed.again] at read
    exact .inl (Except.ok.inj read).symm

/-! ## Writing -/

def parts (u : Url) : Parts :=
  ⟨u.scheme.toList, u.authority.toList, u.path.toList, u.query.map String.toList,
    u.fragment.map String.toList⟩

theorem toText_toList {u : Url} (hs : u.scheme ≠ "") : u.toText.toList = u.parts.text := by
  have ha : u.authority.toList = [] ↔ u.authority = "" := String.toList_eq_nil_iff
  unfold toText Parts.text Parts.tail parts
  dsimp only
  rw [if_neg hs]
  by_cases empty : u.authority = ""
  · rw [if_pos empty, if_pos (ha.mpr empty)]
    cases u.query <;> cases u.fragment <;> simp
  · rw [if_neg empty, if_neg (mt ha.mp empty)]
    cases u.query <;> cases u.fragment <;> simp

/-- The text of a URL without a scheme, as a list. -/
theorem toText_schemeless {u : Url} (hs : u.scheme = "") :
    u.toText.toList =
      (if u.authority = "" then [] else '/' :: '/' :: u.authority.toList) ++ u.parts.tail := by
  unfold toText Parts.tail parts
  rw [if_pos hs]
  by_cases empty : u.authority = ""
  · rw [if_pos empty, if_pos empty]
    cases u.query <;> cases u.fragment <;> simp
  · rw [if_neg empty, if_neg empty]
    cases u.query <;> cases u.fragment <;> simp

theorem scheme_of_written {u : Url} (h : u.Written) (hs : u.scheme ≠ "") :
    IsScheme u.scheme.toList :=
  h.scheme.resolve_left hs

/-- The parts of a written URL can be told from its text, unless it has no authority and
its path looks like one. -/
theorem parts_fit {u : Url} (h : u.Written) (hs : u.scheme ≠ "")
    (single : u.authority = "" → ¬['/', '/'] <+: u.parts.tail) : u.parts.Fit where
  scheme := scheme_of_written h hs
  authority := authority_isAuthority h
  path := ⟨not_mem_of_keep h.path (by decide), not_mem_of_keep h.path (by decide)⟩
  query := by
    intro query hq
    obtain ⟨q, found, rfl⟩ := Option.map_eq_some_iff.mp hq
    exact not_mem_of_keep (h.query q found) (by decide)
  rooted := by
    intro ha
    have place : u.authority ≠ "" := fun he => ha (by simp [parts, he])
    rcases h.rooted place with empty | root
    · left
      simp [parts, empty]
    · exact .inr root
  single := by
    intro ha
    exact single (String.toList_eq_nil_iff.mp ha)

theorem printable_of_keep {keep : Char → Bool} {l : List Char} (h : ∀ c ∈ l, keep c = true)
    (visible : ∀ n < 128, keep (Char.ofNat n) = true → isVisible (Char.ofNat n) = true) :
    IsPrintable l := by
  intro c hc low
  exact ascii_cases (p := fun c => keep c = true → isVisible c = true) visible low (h c hc)

theorem printable_append {l m : List Char} (hl : IsPrintable l) (hm : IsPrintable m) :
    IsPrintable (l ++ m) := by
  intro c hc
  rcases List.mem_append.mp hc with hc | hc
  · exact hl c hc
  · exact hm c hc

theorem printable_cons {c : Char} {l : List Char} (hc : isVisible c = true) (hl : IsPrintable l) :
    IsPrintable (c :: l) := by
  intro d hd
  rcases List.mem_cons.mp hd with rfl | hd
  · exact fun _ => hc
  · exact hl d hd

theorem printable_nil : IsPrintable [] := by simp [IsPrintable]

theorem authority_printable {u : Url} (h : u.Written) : IsPrintable u.authority.toList := by
  have host : IsPrintable (hostText u.host) := by
    rcases h.host with plain | bracketed
    · rw [hostText_plain plain]
      exact printable_of_keep plain (by decide +kernel)
    · rw [hostText_bracketed bracketed]
      exact printable_cons (by decide)
        (printable_append bracketed.printable (printable_cons (by decide) printable_nil))
  have user : IsPrintable u.userInfo.toList := printable_of_keep h.user (by decide +kernel)
  have port : IsPrintable (portText u.port) :=
    printable_of_keep (portText_chars u.port) (by decide +kernel)
  rw [authority_toList]
  refine printable_append ?_ (printable_append host port)
  split
  · exact printable_nil
  · exact printable_append user (printable_cons (by decide) printable_nil)

/-- What stands behind the authority of a written URL has no character without a visible
form. -/
theorem tail_printable {u : Url} (h : u.Written) : IsPrintable u.parts.tail := by
  have path : IsPrintable u.path.toList := printable_of_keep h.path (by decide +kernel)
  have query : IsPrintable ((u.query.map String.toList).elim [] ('?' :: ·)) := by
    cases hq : u.query with
    | none => exact printable_nil
    | some q =>
      exact printable_cons (by decide) (printable_of_keep (h.query q hq) (by decide +kernel))
  have fragment : IsPrintable ((u.fragment.map String.toList).elim [] ('#' :: ·)) := by
    cases hf : u.fragment with
    | none => exact printable_nil
    | some f =>
      exact printable_cons (by decide) (printable_of_keep (h.fragment f hf) (by decide +kernel))
  exact printable_append path (printable_append query fragment)

/-- The text of a written URL has no character without a visible form. -/
theorem text_printable {u : Url} (h : u.Written) (hs : u.scheme ≠ "") :
    IsPrintable u.parts.text := by
  have scheme : IsPrintable u.scheme.toList :=
    printable_of_keep (scheme_chars (scheme_of_written h hs)) (by decide +kernel)
  unfold Parts.text
  refine printable_append scheme (printable_cons (by decide)
    (printable_append ?_ (tail_printable h)))
  split
  · exact printable_nil
  · exact printable_cons (by decide) (printable_cons (by decide) (authority_printable h))

theorem toText_printable {u : Url} (h : u.Written) : IsPrintable u.toText.toList := by
  by_cases hs : u.scheme = ""
  · rw [toText_schemeless hs]
    refine printable_append ?_ (tail_printable h)
    split
    · exact printable_nil
    · exact printable_cons (by decide) (printable_cons (by decide) (authority_printable h))
  · rw [toText_toList hs]
    exact text_printable h hs

end LakeAdmin.Url
