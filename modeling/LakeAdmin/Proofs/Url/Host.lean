import LakeAdmin.Proofs.Net.Ipv4
import LakeAdmin.Proofs.Text.Percent
import LakeAdmin.Proofs.Text.Split
import LakeAdmin.Url.Host

/-!
The characters of hosts. A host as it is written in a URL is an IPv6 address from
between brackets, or holds nothing but characters of names: no delimiter of URLs is
among them, however the host was written before.
-/

namespace LakeAdmin.Url

open Text

/-- What has come to a result has come to one at each step. -/
theorem bind_ok {x : Except ε α} {f : α → Except ε β} {b : β} (h : x >>= f = .ok b) :
    ∃ a, x = .ok a ∧ f a = .ok b := by
  cases x with
  | error e => cases h
  | ok a => exact ⟨a, rfl, h⟩

/-- What has come to a failure has come to it at some step. -/
theorem bind_error {x : Except ε α} {f : α → Except ε β} {e : ε} (h : x >>= f = .error e) :
    x = .error e ∨ ∃ a, x = .ok a ∧ f a = .error e := by
  cases x with
  | error e' =>
    cases h
    exact .inl rfl
  | ok a => exact .inr ⟨a, rfl, h⟩

theorem mapError_ok {ε ε' α : Type} {x : Except ε α} {wrap : ε → ε'} {a : α}
    (h : x.mapError wrap = .ok a) : x = .ok a := by
  cases x with
  | error e => cases h
  | ok b =>
    cases h
    rfl

theorem mapError_error {ε ε' α : Type} {x : Except ε α} {wrap : ε → ε'} {e' : ε'}
    (h : x.mapError wrap = .error e') : ∃ e, x = .error e ∧ wrap e = e' := by
  cases x with
  | error e =>
    cases h
    exact ⟨e, rfl, rfl⟩
  | ok a => cases h

theorem ok_of_toOption {ε α : Type} {x : Except ε α} {a : α} (h : x.toOption = some a) :
    x = .ok a := by
  cases x with
  | error e => cases h
  | ok b => exact congrArg Except.ok (Option.some.inj h)

/-! ## Characters -/

theorem ascii_cases {p : Char → Prop} (h : ∀ n < 128, p (Char.ofNat n)) {c : Char}
    (hc : c.toNat < 128) : p c := by
  rw [← Char.ofNat_toNat c]
  exact h c.toNat hc

theorem toLower_nonascii {c : Char} (h : 128 ≤ c.toNat) : c.toLower = c := by
  unfold Char.toLower
  rw [dif_neg]
  rintro ⟨-, high⟩
  have : c.toNat ≤ 90 := high
  omega

theorem toLower_ascii {c : Char} (h : c.toNat < 128) : c.toLower.toNat < 128 :=
  ascii_cases (p := fun c => c.toLower.toNat < 128) (by decide) h

/-- A character of a host is one in small letters too, and the other way round. -/
theorem isHostChar_toLower (c : Char) : isHostChar c.toLower = isHostChar c := by
  by_cases h : c.toNat < 128
  · exact ascii_cases (p := fun c => isHostChar c.toLower = isHostChar c) (by decide +kernel) h
  · rw [toLower_nonascii (by omega)]

theorem tripleChar_ascii {c : Char} (h : Percent.isTripleChar c = true) : c.toNat < 128 := by
  simp only [Percent.isTripleChar, Bool.or_eq_true, beq_iff_eq, Bool.and_eq_true,
    decide_eq_true_eq] at h
  rcases h with (rfl | digit) | ⟨-, high⟩
  · decide
  · simp only [Char.isDigit, Bool.and_eq_true, decide_eq_true_eq] at digit
    have : c.toNat ≤ 57 := digit.2
    omega
  · have : c.toNat ≤ 70 := high
    omega

theorem isHostChar_tripleChar {c : Char} (h : Percent.isTripleChar c = true) :
    isHostChar c = true :=
  ascii_cases (p := fun c => Percent.isTripleChar c = true → isHostChar c = true)
    (by decide) (tripleChar_ascii h) h

/-! ## Addresses -/

theorem isHostChar_digit {c : Char} (h : c.isDigit = true) : isHostChar c = true := by
  simp [isHostChar, Percent.isUnreserved, Char.isAlphanum, h]

/-- An IPv4 address is digits and points. -/
theorem ipv4_chars {s : String} (h : (Ipv4.ofText? s).isSome = true) :
    ∀ c ∈ s.toList, c.isDigit = true ∨ c = '.' := by
  obtain ⟨address, found⟩ := Option.isSome_iff_exists.mp h
  obtain ⟨first, second, third, fourth, a, b, c, d, parts, ha, hb, hc, hd, -⟩ :=
    Ipv4.ofText?_parts found
  intro x hx
  rw [← joinWith_splitAt '.' s.toList, parts] at hx
  rcases mem_joinWith hx with rfl | ⟨part, hp, hm⟩
  · exact .inr rfl
  · simp only [List.mem_cons, List.not_mem_nil, or_false] at hp
    rcases hp with rfl | rfl | rfl | rfl
    · exact .inl ((Ipv4.octet_chars ha).2 x hm)
    · exact .inl ((Ipv4.octet_chars hb).2 x hm)
    · exact .inl ((Ipv4.octet_chars hc).2 x hm)
    · exact .inl ((Ipv4.octet_chars hd).2 x hm)

/-- An IPv6 address holds a colon. -/
theorem ipv6_colon {l : List Char} (h : Ipv6.isAddress l = true) : ':' ∈ l := by
  have plain : Ipv6.isPlain (cutFirst '%' l).1 = true := by
    unfold Ipv6.isAddress at h
    simp only [Bool.and_eq_true] at h
    exact h.2
  have colon : ':' ∈ (cutFirst '%' l).1 := by
    refine Decidable.byContradiction fun none => ?_
    unfold Ipv6.isPlain at plain
    rw [splitAt_none none] at plain
    simp at plain
  rcases cutFirst_cases '%' l with ⟨-, cut⟩ | ⟨before, after, -, rfl, cut⟩
  · rwa [cut] at colon
  · rw [cut] at colon
    simp [colon]

/-! ## Labels -/

namespace HostName

open Label Punycode

/-- Whether a code point is no delimiter: it is beyond ASCII, or a character of hosts. -/
def isFit (n : Nat) : Prop := n < 128 → isHostChar (Char.ofNat n) = true

/-- The letters of ASCII: all other ranges begin beyond it. -/
theorem asciiLetters :
    letterRanges.flatten.filter (·.1 < 128) = [(0x2D, 0x2D), (0x30, 0x39), (0x61, 0x7A)] ∧
      alternateRanges.all (128 ≤ ·.1) = true := by
  decide +kernel

theorem isFit_letter {n : Nat} (h : isLetter n = true) : isFit n := by
  intro hn
  unfold isLetter at h
  rw [Bool.or_eq_true] at h
  rcases h with h | h
  · obtain ⟨ranges, hr, h⟩ := List.any_eq_true.mp h
    obtain ⟨range, hm, h⟩ := List.any_eq_true.mp h
    simp only [Bool.and_eq_true, decide_eq_true_eq] at h
    have low : range ∈ letterRanges.flatten.filter (·.1 < 128) := by
      rw [List.mem_filter, List.mem_flatten]
      exact ⟨⟨ranges, hr, hm⟩, by simp; omega⟩
    rw [asciiLetters.1] at low
    have all : ∀ n < 128, (n = 0x2D ∨ (0x30 ≤ n ∧ n ≤ 0x39) ∨ (0x61 ≤ n ∧ n ≤ 0x7A)) →
        isHostChar (Char.ofNat n) = true := by
      decide
    simp only [List.mem_cons, List.not_mem_nil, or_false] at low
    refine all n hn ?_
    rcases low with rfl | rfl | rfl <;> dsimp only at h <;> omega
  · obtain ⟨range, hm, h⟩ := List.any_eq_true.mp h
    have high := List.all_eq_true.mp asciiLetters.2 range hm
    simp only [Bool.and_eq_true, decide_eq_true_eq] at h high
    omega

theorem checkPoints_fit {label before points : List Nat}
    (h : checkPoints label before points = .ok ()) : ∀ n ∈ points, isFit n := by
  induction points generalizing before with
  | nil => simp
  | cons n rest ih =>
    unfold checkPoints at h
    dsimp only at h
    split at h
    · cases h
    · rename_i fit
      intro m hm
      rcases List.mem_cons.mp hm with rfl | hm
      · split at fit
        · exact isFit_letter ‹_›
        · split at fit
          · rename_i joiner
            intro low
            simp only [isJoiner, Bool.or_eq_true, decide_eq_true_eq] at joiner
            omega
          · split at fit
            · rename_i sign
              intro low
              simp [isSign] at sign
              omega
            · cases fit
      · exact ih h m hm

theorem check_fit {label : List Nat} (h : check label = .ok ()) : ∀ n ∈ label, isFit n := by
  unfold check at h
  repeat' split at h
  all_goals try cases h
  rename_i points
  exact checkPoints_fit points

/-! ## Coded labels -/

theorem digitValue_host {c : Char} (h : (digitValue? c).isSome = true) :
    isHostChar c = true := by
  have low : c.toNat < 128 := by
    unfold digitValue? at h
    split at h
    · rename_i range
      simp only [Bool.and_eq_true, decide_eq_true_eq] at range
      have : c.toNat ≤ 122 := range.2
      omega
    · split at h
      · rename_i range
        simp only [Bool.and_eq_true, decide_eq_true_eq] at range
        have : c.toNat ≤ 90 := range.2
        omega
      · split at h
        · rename_i digit
          simp only [Char.isDigit, Bool.and_eq_true, decide_eq_true_eq] at digit
          have : c.toNat ≤ 57 := digit.2
          omega
        · cases h
  exact ascii_cases (p := fun c => (digitValue? c).isSome = true → isHostChar c = true)
    (by decide) low h

/-- A code point that was read stays. -/
theorem digit_keeps {r next : Reading} {digit : Nat} (h : r.digit? digit = some next) :
    ∀ n ∈ r.text, n ∈ next.text := by
  intro n hn
  unfold Reading.digit? at h
  dsimp only at h
  split at h
  · unfold Reading.place? at h
    dsimp only at h
    split at h
    · cases h
    · cases h
      have place : (r.place + (r.value + digit * r.weight)) % (r.text.length + 1) ≤
          r.text.length := Nat.le_of_lt_succ (Nat.mod_lt _ (Nat.succ_pos _))
      exact (List.mem_insertIdx place).mpr (.inr hn)
  · cases h
    exact hn

theorem digits_keep {code : List Char} {r final : Reading}
    (h : code.foldlM (fun (r : Reading) c => (digitValue? c).bind r.digit?) r = some final) :
    (∀ c ∈ code, isHostChar c = true) ∧ ∀ n ∈ r.text, n ∈ final.text := by
  induction code generalizing r with
  | nil =>
    cases h
    exact ⟨by simp, fun n hn => hn⟩
  | cons c rest ih =>
    rw [List.foldlM_cons] at h
    cases hv : digitValue? c with
    | none => simp [hv] at h
    | some value =>
      cases hd : r.digit? value with
      | none => simp [hv, hd] at h
      | some next =>
        simp only [hv, Option.bind_some, hd, Option.bind_eq_bind] at h
        obtain ⟨chars, keeps⟩ := ih h
        refine ⟨?_, fun n hn => keeps n (digit_keeps hd n hn)⟩
        intro d hm
        rcases List.mem_cons.mp hm with rfl | hm
        · exact digitValue_host (by rw [hv]; rfl)
        · exact chars d hm

/-- A code that stands for code points that fit holds characters of hosts, as far as it
is in ASCII. -/
theorem decode_chars {code : List Char} {points : List Nat} (h : decode? code = some points)
    (fit : ∀ n ∈ points, isFit n) (low : ∀ c ∈ code, c.toNat < 128) :
    ∀ c ∈ code, isHostChar c = true := by
  have parts : ∀ plain coded : List Char, (∀ c ∈ plain, c ∈ code) →
      ((do
        let reading ← coded.foldlM (fun (r : Reading) c => (digitValue? c).bind r.digit?)
          (Reading.start (plain.map (·.toNat)))
        if reading.index = 0 then some reading.text else none) = some points) →
      (∀ c ∈ plain, isHostChar c = true) ∧ ∀ c ∈ coded, isHostChar c = true := by
    intro plain coded sub read
    cases hr : coded.foldlM (fun (r : Reading) c => (digitValue? c).bind r.digit?)
        (Reading.start (plain.map (·.toNat))) with
    | none => simp [hr] at read
    | some reading =>
      obtain ⟨chars, keeps⟩ := digits_keep hr
      simp only [hr, Option.bind_eq_bind, Option.bind_some] at read
      split at read
      · cases read
        refine ⟨?_, chars⟩
        intro c hc
        have kept := keeps c.toNat (by simpa [Reading.start] using ⟨c, hc, rfl⟩)
        rw [← Char.ofNat_toNat c]
        exact fit c.toNat kept (low c (sub c hc))
      · cases read
  unfold decode? at h
  rcases cutLast_cases '-' code with ⟨-, cut⟩ | ⟨plain, coded, -, whole, cut⟩
  · rw [cut] at h
    exact (parts [] code (by simp) h).2
  · rw [cut] at h
    obtain ⟨front, back⟩ := parts plain coded (by simp [whole]; intro c hc; exact .inl hc) h
    intro c hc
    rw [whole, List.mem_append, List.mem_cons] at hc
    rcases hc with hc | rfl | hc
    · exact front c hc
    · rfl
    · exact back c hc

theorem isHostChar_digitChar {n : Nat} (h : n < 36) : isHostChar (digitChar n) = true := by
  have all : ∀ n < 36, isHostChar (digitChar n) = true := by decide
  exact all n h

theorem digits_chars (index bias n : Nat) : ∀ c ∈ digits index bias n, isHostChar c = true := by
  induction index, n using digits.induct bias with
  | case1 index n bound small =>
    have high := threshold_le index bias
    unfold digits
    rw [if_pos small]
    intro c hc
    rw [List.mem_singleton] at hc
    subst hc
    exact isHostChar_digitChar (by omega)
  | case2 index n bound large ih =>
    have low := threshold_pos index bias
    have high := threshold_le index bias
    unfold digits
    rw [if_neg large]
    intro c hc
    rcases List.mem_cons.mp hc with rfl | hc
    · have := Nat.mod_lt (n - threshold index bias) (show 0 < 36 - threshold index bias by omega)
      exact isHostChar_digitChar (by omega)
    · exact ih c hc

theorem pass_chars {w : Writing} (h : ∀ c ∈ w.code, isHostChar c = true) (due n : Nat) :
    ∀ c ∈ (w.pass due n).code, isHostChar c = true := by
  unfold Writing.pass
  split
  · exact h
  · split
    · intro c hc
      rcases List.mem_append.mp hc with hc | hc
      · exact h c hc
      · exact digits_chars _ _ _ c hc
    · exact h

theorem writePoints_chars {text due : List Nat} {next : Nat} {w : Writing}
    (h : ∀ c ∈ w.code, isHostChar c = true) :
    ∀ c ∈ writePoints text due next w, isHostChar c = true := by
  have passes (n : Nat) (points : List Nat) (w : Writing)
      (h : ∀ c ∈ w.code, isHostChar c = true) :
      ∀ c ∈ (points.foldl (Writing.pass n) w).code, isHostChar c = true := by
    induction points generalizing w with
    | nil => exact h
    | cons m rest ih => exact ih _ (pass_chars h n m)
  induction due generalizing next w with
  | nil => exact h
  | cons n due ih =>
    unfold writePoints
    exact ih (passes n text _ h)

/-- The code of code points that fit holds characters of hosts. -/
theorem encode_chars {points : List Nat} (fit : ∀ n ∈ points, isFit n) :
    ∀ c ∈ Punycode.encode points, isHostChar c = true := by
  intro c hc
  unfold Punycode.encode at hc
  dsimp only at hc
  rcases List.mem_append.mp hc with hc | hc
  · split at hc
    · cases hc
    · rcases List.mem_append.mp hc with hc | hc
      · obtain ⟨n, hn, rfl⟩ := List.mem_map.mp hc
        obtain ⟨hp, low⟩ := List.mem_filter.mp hn
        exact fit n hp (of_decide_eq_true low)
      · rw [List.mem_singleton] at hc
        subst hc
        rfl
  · exact writePoints_chars (by simp) c hc

/-! ## Names -/

theorem codeMark_chars : ∀ c ∈ codeMark, isHostChar c = true :=
  List.all_eq_true.mp (by decide)

theorem readLabel_chars {label : List Char} {points : List Nat}
    (h : readLabel label = .ok points) (low : ∀ c ∈ label, c.toNat < 128) :
    ∀ c ∈ label, isHostChar c = true := by
  have small : (lowerAscii (String.ofList label)).toList = label.map Char.toLower := by
    simp [lowerAscii]
  have lowSmall : ∀ c ∈ label.map Char.toLower, c.toNat < 128 := by
    intro c hc
    obtain ⟨d, hd, rfl⟩ := List.mem_map.mp hc
    exact toLower_ascii (low d hd)
  have all : ∀ c ∈ label.map Char.toLower, isHostChar c = true := by
    unfold readLabel at h
    rw [small] at h
    dsimp only at h
    split at h
    · rename_i coded
      obtain ⟨code, whole⟩ := List.isPrefixOf_iff_prefix.mp coded
      rw [← whole] at h lowSmall ⊢
      rw [List.drop_left] at h
      split at h
      · cases h
      · split at h
        · cases h
        · split at h
          · cases h
          · rename_i found read
            obtain ⟨_, checked, -⟩ := bind_ok h
            have chars := decode_chars read (check_fit checked) fun c hc =>
              lowSmall c (List.mem_append_right _ hc)
            intro c hc
            rcases List.mem_append.mp hc with hc | hc
            · exact codeMark_chars c hc
            · exact chars c hc
    · obtain ⟨_, checked, -⟩ := bind_ok h
      intro c hc
      rw [← Char.ofNat_toNat c]
      exact check_fit checked c.toNat (List.mem_map_of_mem hc) (lowSmall c hc)
  intro c hc
  rw [← isHostChar_toLower]
  exact all _ (List.mem_map_of_mem hc)

theorem writeLabel_chars {label written : List Char} (h : writeLabel label = .ok written) :
    ∀ c ∈ written, isHostChar c = true := by
  have kept {coded : List Char}
      (h : (if 63 < coded.length then throw LabelFault.tooLong >>= fun _ : PUnit => pure coded
        else pure coded : Except LabelFault (List Char)) = .ok written) : coded = written := by
    split at h
    · cases h
    · cases h
      rfl
  unfold writeLabel at h
  dsimp only at h
  split at h
  · rename_i low
    obtain ⟨points, read, h⟩ := bind_ok h
    cases kept h
    exact readLabel_chars read (by simpa using low)
  · obtain ⟨_, checked, h⟩ := bind_ok h
    cases kept h
    intro c hc
    rcases List.mem_append.mp hc with hc | hc
    · exact codeMark_chars c hc
    · exact encode_chars (check_fit checked) c hc

theorem mapM_mem {f : α → Except ε β} {l : List α} {r : List β} (h : l.mapM f = .ok r) :
    ∀ b ∈ r, ∃ a ∈ l, f a = .ok b := by
  induction l generalizing r with
  | nil =>
    cases h
    simp
  | cons a rest ih =>
    rw [List.mapM_cons] at h
    obtain ⟨first, hf, h⟩ := bind_ok h
    obtain ⟨others, ho, h⟩ := bind_ok h
    cases h
    intro b hb
    rcases List.mem_cons.mp hb with rfl | hb
    · exact ⟨a, by simp, hf⟩
    · obtain ⟨x, hx, hxb⟩ := ih ho b hb
      exact ⟨x, by simp [hx], hxb⟩

theorem mapLabels_chars {name written : String}
    (h : mapLabels writeLabel name = .ok written) :
    ∀ c ∈ written.toList, isHostChar c = true := by
  unfold mapLabels at h
  split at h
  · cases h
  · split at h
    · cases h
    · have ends : ∀ part ∈ (if (labels name.toList).getLast? = some [] then [[]] else [] :
          List (List Char)), part = [] := by
        split <;> simp
      dsimp only at h
      generalize (if (labels name.toList).getLast? = some [] then [[]] else [] :
        List (List Char)) = ending at h ends
      split at h
      · cases h
      · rename_i treated made
        cases h
        intro c hc
        rw [String.toList_ofList] at hc
        rcases mem_joinWith hc with rfl | ⟨part, hp, hc⟩
        · rfl
        · rcases List.mem_append.mp hp with hp | hp
          · obtain ⟨label, -, hw⟩ := mapM_mem made part hp
            exact writeLabel_chars hw c hc
          · rw [ends part hp] at hc
            cases hc

/-- A name that is written in a URL holds characters of hosts. -/
theorem encode_name_chars {name host : String} (h : HostName.encode name = .ok host) :
    ∀ c ∈ host.toList, isHostChar c = true := by
  unfold HostName.encode at h
  obtain ⟨written, mapped, sized⟩ := bind_ok h
  have same : written = host := by
    generalize (if written.endsWith "." = true then 0 else 1) = n at sized
    split at sized
    · cases sized
    · cases sized
      rfl
  rw [← same]
  exact mapLabels_chars mapped

end HostName

/-! ## Hosts -/

theorem lowerAscii_toList (s : String) : (lowerAscii s).toList = s.toList.map Char.toLower := by
  simp [lowerAscii]

theorem isHostChar_ascii {c : Char} (h : isHostChar c = true) : c.toNat < 128 := by
  have listed : ∀ d ∈ "!$&'()*+,;=\"`\x7b\x7d%|\\".toList, d.toNat < 128 := by simp
  unfold isHostChar at h
  rw [Bool.or_eq_true, List.contains_iff_mem] at h
  rcases h with h | h
  · unfold Percent.isUnreserved Char.isAlphanum Char.isAlpha Char.isUpper Char.isLower
      Char.isDigit at h
    simp only [Bool.or_eq_true, Bool.and_eq_true, decide_eq_true_eq, beq_iff_eq] at h
    rcases h with ((((((⟨-, h⟩ | ⟨-, h⟩) | ⟨-, h⟩) | rfl) | rfl) | rfl) | rfl)
    · have : c.toNat ≤ 90 := h
      omega
    · have : c.toNat ≤ 122 := h
      omega
    · have : c.toNat ≤ 57 := h
      omega
    · decide
    · decide
    · decide
    · decide
  · exact listed c h

theorem brackets_eq {l : List Char} (h : l.head? = some '[' ∧ l.getLast? = some ']') :
    l = '[' :: ((l.drop 1).dropLast ++ [']']) := by
  obtain ⟨first, last⟩ := h
  cases l with
  | nil => cases first
  | cons c rest =>
    cases first
    cases rest with
    | nil => cases last
    | cons d rest =>
      rw [List.getLast?_cons_cons] at last
      obtain ⟨front, whole⟩ := List.getLast?_eq_some_iff.mp last
      rw [whole]
      simp

/-- A host that is read is a name, or what stood in the brackets it was read from. -/
theorem encodeHost_cases {l : List Char} {host : String} (h : encodeHost l = .ok host) :
    (∀ c ∈ host.toList, isHostChar c = true) ∨
      (l = '[' :: (host.toList ++ [']']) ∧ ':' ∈ host.toList) := by
  unfold encodeHost at h
  split at h
  · cases h
    simp
  · split at h
    · split at h
      · cases h
        left
        intro c hc
        rename_i address
        rcases ipv4_chars address c hc with digit | rfl
        · exact isHostChar_digit digit
        · rfl
      · cases h
    · split at h
      · rename_i brackets
        dsimp only at h
        split at h
        · cases h
          right
          rename_i address
          rw [String.toList_ofList]
          exact ⟨brackets_eq brackets, ipv6_colon address⟩
        · cases h
      · split at h
        · cases h
          left
          intro c hc
          rcases Percent.mem_encode hc with ⟨kept, -⟩ | triple
          · exact kept
          · exact isHostChar_tripleChar triple
        · split at h
          · rename_i found
            cases h
            exact .inl (HostName.encode_name_chars found)
          · cases h

theorem toLower_digit {c : Char} (h : c.isDigit = true) : c.toLower = c := by
  have low : c.toNat < 128 := isHostChar_ascii (isHostChar_digit h)
  exact ascii_cases (p := fun c => c.isDigit = true → c.toLower = c) (by decide) low h

/-- Read again, a name is itself in small letters. -/
theorem encodeHost_again {name again : String} (chars : ∀ c ∈ name.toList, isHostChar c = true)
    (h : encodeHost name.toList = .ok again) : again = lowerAscii name := by
  have bracket : name.toList.head? ≠ some '[' := by
    intro first
    have := chars '[' (List.mem_of_mem_head? first)
    exact absurd this (by decide)
  unfold encodeHost at h
  split at h
  · rename_i none
    cases h
    rw [← String.toList_inj, lowerAscii_toList, List.isEmpty_iff.mp none]
    rfl
  · split at h
    · split at h
      · rename_i address
        cases h
        rw [← String.toList_inj, lowerAscii_toList, String.toList_ofList]
        refine (List.map_congr_left fun c hc => ?_).trans (List.map_id _) |>.symm
        rw [String.ofList_toList] at address
        rcases ipv4_chars address c hc with digit | rfl
        · exact toLower_digit digit
        · rfl
      · cases h
    · rw [if_neg fun both => bracket both.1] at h
      rw [if_pos (by simpa using fun c hc => isHostChar_ascii (chars c hc))] at h
      cases h
      rw [String.ofList_toList]
      refine Percent.encode_eq_self fun c hc => ?_
      rw [lowerAscii_toList] at hc
      obtain ⟨d, hd, rfl⟩ := List.mem_map.mp hc
      rw [isHostChar_toLower]
      exact chars d hd

end LakeAdmin.Url
