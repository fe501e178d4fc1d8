import LakeAdmin.Pager

/-!
Walks that are resumed at a link, and walks that a cap cuts off. The walk without a cap is the
measure of both. Whoever has taken some pages of it and goes on at the link of the last one
gets what is left of it. A cap leaves its first pages, with the fetches that these take. The
walk without a cap may have no end; its leave to fetch says how much of it is looked at.
-/

namespace LakeAdmin

variable {σ ε κ α : Type}

/-! ## Traces -/

namespace Walk

/-- The walk that hands on what a page holds where this one hands on the page. -/
def spread (emit : Page κ → List α) (walk : Walk ε (Page κ)) : Walk ε α where
  steps := walk.steps.flatMap fun
    | .fetch token => [.fetch token]
    | .deliver page => (emit page).map .deliver
  ending := walk.ending

@[simp] theorem after_ending (walk : Walk ε α) (steps : List (WalkStep α)) :
    (walk.after steps).ending = walk.ending := rfl

@[simp] theorem delivered_page (token : Option Wide) (page : Page κ)
    (walk : Walk ε (Page κ)) :
    (walk.after [.fetch token, .deliver page]).delivered = page :: walk.delivered := by
  simp [after, delivered]

@[simp] theorem fetched_page (token : Option Wide) (page : Page κ) (walk : Walk ε (Page κ)) :
    (walk.after [.fetch token, .deliver page]).fetched = token :: walk.fetched := by
  simp [after, fetched]

/-- What is handed on behind the steps of another walk comes behind what that one hands on. -/
theorem delivered_after (walk other : Walk ε α) :
    (walk.after other.steps).delivered = other.delivered ++ walk.delivered := by
  simp [after, delivered]

theorem fetched_after (walk other : Walk ε α) :
    (walk.after other.steps).fetched = other.fetched ++ walk.fetched := by
  simp [after, fetched]

theorem result_after (walk other : Walk ε α) :
    (walk.after other.steps).result = walk.result.map (other.delivered ++ ·) := by
  unfold result
  rw [delivered_after, after_ending]
  cases walk.ending <;> rfl

@[simp] theorem delivered_elements (elements : List α) (ending : WalkEnd ε) :
    (⟨elements.map .deliver, ending⟩ : Walk ε α).delivered = elements := by
  unfold delivered
  rw [List.filterMap_map]
  exact List.filterMap_some

@[simp] theorem fetched_elements (elements : List α) (ending : WalkEnd ε) :
    (⟨elements.map .deliver, ending⟩ : Walk ε α).fetched = [] := by
  unfold fetched
  rw [List.filterMap_map]
  exact List.filterMap_eq_nil_iff.mpr fun _ _ => rfl

theorem delivered_spread (emit : Page κ → List α) (walk : Walk ε (Page κ)) :
    (walk.spread emit).delivered = walk.delivered.flatMap emit := by
  obtain ⟨steps, ending⟩ := walk
  induction steps with
  | nil => rfl
  | cons step steps ih =>
    cases step with
    | fetch token => exact ih
    | deliver page =>
      have whole := delivered_after (spread emit ⟨steps, ending⟩)
        ⟨(emit page).map .deliver, ending⟩
      rw [delivered_elements, ih] at whole
      exact whole

theorem fetched_spread (emit : Page κ → List α) (walk : Walk ε (Page κ)) :
    (walk.spread emit).fetched = walk.fetched := by
  obtain ⟨steps, ending⟩ := walk
  induction steps with
  | nil => rfl
  | cons step steps ih =>
    cases step with
    | fetch token => exact congrArg (token :: ·) ih
    | deliver page =>
      have whole := fetched_after (spread emit ⟨steps, ending⟩)
        ⟨(emit page).map .deliver, ending⟩
      rw [fetched_elements, ih] at whole
      exact whole

theorem spread_after (emit : Page κ → List α) (walk : Walk ε (Page κ))
    (steps : List (WalkStep (Page κ))) :
    (walk.after steps).spread emit =
      (walk.spread emit).after (spread emit ⟨steps, walk.ending⟩).steps := by
  simp [after, spread]

end Walk

theorem continuation_ne {page : Page κ} {link : Wide} (h : page.continuation = some link) :
    link ≠ "" := by
  obtain ⟨-, hne⟩ := Option.filter_eq_some_iff.mp h
  simpa using hne

namespace Pager

/-! ## One page of a walk -/

variable {pager : Pager σ ε κ} {emit : Page κ → List α} {token : Option Wide}
  {state after : σ}

theorem walkFrom_spent (seen : Nat) (demand : Option Nat) :
    pager.walkFrom emit 0 seen demand token state = (⟨[], .unfinished⟩, state) := rfl

/-- What the stretch of a walk from a page on comes to: the page cannot be fetched, it holds all
that is still wanted, the walk ends behind it, or it goes on at its link. -/
inductive Stretch (pager : Pager σ ε κ) (emit : Page κ → List α) (leave seen : Nat)
    (demand : Option Nat) (token : Option Wide) (state : σ) : Walk ε α × σ → Prop
  | failed {error : ε} {after : σ} (fetched : pager.fetch token state = (.error error, after)) :
      Stretch pager emit leave seen demand token state (⟨[.fetch token], .failed error⟩, after)
  | enough {page : Page κ} {after : σ} {count : Nat}
      (fetched : pager.fetch token state = (.ok page, after)) (wants : demand = some count)
      (fits : count ≤ (emit page).length) :
      Stretch pager emit leave seen demand token state
        (⟨.fetch token :: ((emit page).take count).map .deliver, .stopped⟩, after)
  | last {page : Page κ} {after : σ} (fetched : pager.fetch token state = (.ok page, after))
      (wanted : ∀ count ∈ demand, (emit page).length < count)
      (ends : page.continuation = none ∨ isCapped pager.maxPages (seen + 1) = true) :
      Stretch pager emit leave seen demand token state
        (⟨.fetch token :: (emit page).map .deliver, .exhausted⟩, after)
  | next {page : Page κ} {link : Wide} {rest : Walk ε α} {after final : σ}
      (fetched : pager.fetch token state = (.ok page, after))
      (wanted : ∀ count ∈ demand, (emit page).length < count)
      (continues : page.continuation = some link)
      (uncapped : isCapped pager.maxPages (seen + 1) = false)
      (behind : pager.walkFrom emit leave (seen + 1) (demand.map (· - (emit page).length))
        (some link) after = (rest, final)) :
      Stretch pager emit leave seen demand token state
        (rest.after (.fetch token :: (emit page).map .deliver), final)

theorem walkFrom_stretch (pager : Pager σ ε κ) (emit : Page κ → List α) (leave seen : Nat)
    (demand : Option Nat) (token : Option Wide) (state : σ) :
    pager.Stretch emit leave seen demand token state
      (pager.walkFrom emit (leave + 1) seen demand token state) := by
  unfold walkFrom
  rcases fetched : pager.fetch token state with ⟨error | page, after⟩
  · exact .failed fetched
  · dsimp only
    by_cases enough : demand.any (· ≤ (emit page).length)
    · rw [if_pos enough]
      cases demand with
      | none => cases enough
      | some count => exact .enough fetched rfl (of_decide_eq_true enough)
    · have wanted : ∀ count ∈ demand, (emit page).length < count := by
        rintro count rfl
        simpa using enough
      rw [if_neg enough]
      cases continues : page.continuation with
      | none => exact .last fetched wanted (.inl continues)
      | some link =>
        dsimp only
        cases capped : isCapped pager.maxPages (seen + 1) with
        | true => exact .last fetched wanted (.inr capped)
        | false => exact .next fetched wanted continues capped rfl

theorem walkFrom_failed {error : ε} (fetched : pager.fetch token state = (.error error, after))
    (leave seen : Nat) (demand : Option Nat) :
    pager.walkFrom emit (leave + 1) seen demand token state =
      (⟨[.fetch token], .failed error⟩, after) := by
  simp [walkFrom, fetched]

/-- The stretch of a walk from a page on, for a caller who wants all. -/
theorem walkFrom_page {page : Page κ} (fetched : pager.fetch token state = (.ok page, after))
    (leave seen : Nat) :
    pager.walkFrom emit (leave + 1) seen none token state =
      match page.continuation with
      | none => (⟨.fetch token :: (emit page).map .deliver, .exhausted⟩, after)
      | some link =>
        if isCapped pager.maxPages (seen + 1) then
          (⟨.fetch token :: (emit page).map .deliver, .exhausted⟩, after)
        else
          ((pager.walkFrom emit leave (seen + 1) none (some link) after).1.after
              (.fetch token :: (emit page).map .deliver),
            (pager.walkFrom emit leave (seen + 1) none (some link) after).2) := by
  cases continues : page.continuation with
  | none => simp [walkFrom, fetched, continues]
  | some link => simp [walkFrom, fetched, continues]

/-- The items of a walk are those of its pages, each behind the fetch of its page. -/
theorem walkFrom_spread (pager : Pager σ ε κ) (emit : Page κ → List α) (leave seen : Nat)
    (token : Option Wide) (state : σ) :
    pager.walkFrom emit leave seen none token state =
      ((pager.walkFrom (fun page => [page]) leave seen none token state).1.spread emit,
        (pager.walkFrom (fun page => [page]) leave seen none token state).2) := by
  induction leave generalizing seen token state with
  | zero => rfl
  | succ leave ih =>
    rcases fetched : pager.fetch token state with ⟨error | page, after⟩
    · rw [walkFrom_failed fetched, walkFrom_failed fetched]
      rfl
    · rw [walkFrom_page fetched, walkFrom_page fetched]
      have items (ending : WalkEnd ε) :
          Walk.spread emit ⟨[.fetch token, .deliver page], ending⟩ =
            ⟨.fetch token :: (emit page).map .deliver, ending⟩ := by
        simp [Walk.spread]
      cases page.continuation with
      | none => simp [items]
      | some link =>
        dsimp only
        split
        · simp [items]
        · rw [ih (seen + 1) (some link) after]
          simp [Walk.spread_after, items]

/-! ## No cap -/

def uncapped (pager : Pager σ ε κ) : Pager σ ε κ := { pager with maxPages := none }

/-- The cap of a pager does not cut any walk off. -/
def IsFree (pager : Pager σ ε κ) : Prop := pager.maxPages = none ∨ pager.maxPages = some 0

theorem isFree_uncapped (pager : Pager σ ε κ) : pager.uncapped.IsFree := .inl rfl

theorem isCapped_free (free : pager.IsFree) (seen : Nat) :
    isCapped pager.maxPages seen = false := by
  rcases free with none | zero
  · simp [none, isCapped]
  · simp [zero, isCapped]

/-- A walk that no cap cuts off does not depend on how many pages were seen before. -/
theorem walkFrom_free (free : pager.IsFree) (leave seen other : Nat) (demand : Option Nat)
    (token : Option Wide) (state : σ) :
    pager.walkFrom emit leave seen demand token state =
      pager.uncapped.walkFrom emit leave other demand token state := by
  induction leave generalizing seen other demand token state with
  | zero => rfl
  | succ leave ih =>
    have same : pager.uncapped.fetch = pager.fetch := rfl
    simp only [walkFrom, same, isCapped_free free, isCapped_free (isFree_uncapped pager)]
    simp only [ih (seen + 1) (other + 1)]

/-! ## Going on at a link -/

/-- A caller has taken `count` pages of a walk from a token and stopped, in a state where the
last of them names a link. -/
structure LeavesOff (pager : Pager σ ε κ) (count : Nat) (token : Option Wide) (state : σ)
    (first : Walk ε (Page κ)) (link : Wide) (left : σ) : Prop where
  walked : ∃ leave, pager.pages leave (some count) token state = (first, left)
  taken : first.delivered.length = count
  named : first.delivered.getLast?.bind Page.continuation = some link

/-- What a walk does behind its first pages is a walk from the link of the last of them. The
induction is on the leave that the first pages were fetched with. -/
theorem walkFrom_resumed (free : pager.IsFree) {given seen count : Nat} {link : Wide}
    {first : Walk ε (Page κ)} {left : σ}
    (walked : pager.walkFrom (fun page => [page]) given seen (some count) token state =
      (first, left))
    (taken : first.delivered.length = count)
    (named : first.delivered.getLast?.bind Page.continuation = some link) (leave other : Nat) :
    pager.walkFrom (fun page => [page]) (count + leave) seen none token state =
      ((pager.walkFrom (fun page => [page]) leave other none (some link) left).1.after first.steps,
        (pager.walkFrom (fun page => [page]) leave other none (some link) left).2) := by
  induction given generalizing seen count token state first with
  | zero =>
    obtain ⟨rfl, -⟩ := Prod.mk.inj walked
    simp [Walk.delivered] at named
  | succ given ih =>
    rcases fetched : pager.fetch token state with ⟨error | page, after⟩
    · rw [walkFrom_failed fetched] at walked
      obtain ⟨rfl, -⟩ := Prod.mk.inj walked
      simp [Walk.delivered] at named
    · have rest (leave : Nat) : pager.walkFrom (fun page => [page]) leave (seen + 1) none
          (some link) left = pager.walkFrom (fun page => [page]) leave other none (some link)
            left := by
        rw [walkFrom_free free leave (seen + 1) other, walkFrom_free free leave other other]
      simp only [walkFrom, fetched, Option.any_some, List.length_singleton, decide_eq_true_eq,
        isCapped_free free] at walked
      by_cases fits : count ≤ 1
      · rw [if_pos fits] at walked
        obtain ⟨rfl, rfl⟩ := Prod.mk.inj walked
        obtain rfl | rfl : count = 0 ∨ count = 1 := by omega
        · simp [Walk.delivered] at named
        · have continues : page.continuation = some link := by
            simpa [Walk.delivered] using named
          rw [Nat.add_comm, walkFrom_page fetched]
          simp [continues, isCapped_free free, rest]
      · rw [if_neg fits] at walked
        cases continues : page.continuation with
        | none =>
          rw [continues] at walked
          obtain ⟨rfl, -⟩ := Prod.mk.inj walked
          simp [Walk.delivered] at taken
          omega
        | some next =>
          obtain ⟨more, rfl⟩ : ∃ more, count = more + 1 := ⟨count - 1, by omega⟩
          rcases ran : pager.walkFrom (fun page => [page]) given (seen + 1) (some more) (some next)
            after with ⟨second, final⟩
          simp only [continues, Option.map_some, Nat.add_sub_cancel, Bool.false_eq_true, ↓reduceIte,
            ran] at walked
          obtain ⟨rfl, rfl⟩ := Prod.mk.inj walked
          have others : second.delivered.length = more := by simpa using taken
          have last : second.delivered.getLast?.bind Page.continuation = some link := by
            have filled : second.delivered ≠ [] := by
              apply List.ne_nil_of_length_pos
              omega
            simpa [List.getLast?_cons, List.getLast?_eq_some_getLast filled] using named
          have behind := ih ran others last
          rw [show more + 1 + leave = more + leave + 1 by omega, walkFrom_page fetched]
          simp only [continues, isCapped_free free, Bool.false_eq_true, ↓reduceIte, behind]
          simp [Walk.after]

/-! ## A cap -/

/-- A cap allows `most` pages, and there is at least one that it allows. -/
def CapsAt (pager : Pager σ ε κ) (most : Nat) : Prop :=
  0 < most ∧ ∀ seen, 0 < seen → isCapped pager.maxPages seen = decide (most ≤ seen)

theorem capsAt_positive {most : Nat} (positive : 0 < most)
    (capped : pager.maxPages = some (most : Int)) : pager.CapsAt most := by
  refine ⟨positive, fun seen _ => ?_⟩
  simp only [capped, isCapped, decide_eq_decide]
  omega

theorem capsAt_negative {cap : Int} (negative : cap < 0) (capped : pager.maxPages = some cap) :
    pager.CapsAt 1 := by
  refine ⟨Nat.one_pos, fun seen some => ?_⟩
  simp only [capped, isCapped, decide_eq_decide]
  omega

end Pager

namespace Walk

/-- The walk as it ends when it gets no more leave to fetch, and takes that for the end. -/
def closed (walk : Walk ε α) : Walk ε α :=
  match walk.ending with
  | .unfinished => { walk with ending := .exhausted }
  | _ => walk

theorem closed_after (walk : Walk ε α) (steps : List (WalkStep α)) :
    (walk.after steps).closed = walk.closed.after steps := by
  obtain ⟨later, ending⟩ := walk
  cases ending <;> rfl

theorem closed_steps (walk : Walk ε α) : walk.closed.steps = walk.steps := by
  unfold closed
  split <;> rfl

theorem closed_failed (walk : Walk ε α) (error : ε) :
    walk.closed.ending = .failed error ↔ walk.ending = .failed error := by
  unfold closed
  split
  · rename_i ending
    simp [ending]
  · rfl

theorem closed_ends (walk : Walk ε α) (free : walk.ending ≠ .stopped) :
    walk.closed.ending = .exhausted ∨ ∃ error, walk.closed.ending = .failed error := by
  obtain ⟨steps, ending⟩ := walk
  cases ending with
  | exhausted => exact .inl rfl
  | stopped => exact absurd rfl free
  | failed error => exact .inr ⟨error, rfl⟩
  | unfinished => exact .inl rfl

end Walk

namespace Pager

variable {pager : Pager σ ε κ} {token : Option Wide} {state : σ}

/-- A cap leaves of a walk what it does with a fetch for each page that is still allowed. -/
theorem walkFrom_capped {most : Nat} (caps : pager.CapsAt most) (leave seen count : Nat)
    (allowed : seen + count = most) (some : 0 < count) (enough : count ≤ leave)
    (token : Option Wide) (state : σ) :
    pager.walkFrom (fun page => [page]) leave seen none token state =
      ((pager.uncapped.walkFrom (fun page => [page]) count seen none token state).1.closed,
        (pager.uncapped.walkFrom (fun page => [page]) count seen none token state).2) := by
  induction leave generalizing seen count token state with
  | zero => omega
  | succ leave ih =>
    obtain ⟨more, rfl⟩ : ∃ more, count = more + 1 := ⟨count - 1, by omega⟩
    rcases fetched : pager.fetch token state with ⟨error | page, after⟩
    · have same : pager.uncapped.fetch token state = (.error error, after) := fetched
      rw [walkFrom_failed fetched, walkFrom_failed same]
      rfl
    · have same : pager.uncapped.fetch token state = (.ok page, after) := fetched
      rw [walkFrom_page fetched, walkFrom_page same]
      cases continues : page.continuation with
      | none => rfl
      | some link =>
        simp only [isCapped_free (isFree_uncapped pager), Bool.false_eq_true, ↓reduceIte]
        rw [caps.2 (seen + 1) (Nat.succ_pos seen)]
        by_cases last : more = 0
        · subst last
          simp [walkFrom_spent, Walk.closed, Walk.after, show most ≤ seen + 1 by omega]
        · have goes : ¬most ≤ seen + 1 := by omega
          rw [ih (seen + 1) more (by omega) (by omega) (by omega)]
          simp [goes, Walk.closed_after]

/-- A walk with less leave does the first fetches of one with more, and hands on the pages of
these. It fails if the longer one fails within them. -/
theorem walkFrom_first (free : pager.IsFree) (count leave seen : Nat) (fewer : count ≤ leave)
    (token : Option Wide) (state : σ) :
    let short := (pager.walkFrom (fun page => [page]) count seen none token state).1
    let long := (pager.walkFrom (fun page => [page]) leave seen none token state).1
    short.delivered = long.delivered.take count ∧ short.fetched = long.fetched.take count ∧
      ∀ error, short.ending = .failed error ↔
        long.ending = .failed error ∧ long.fetched.length ≤ count := by
  induction count generalizing leave seen token state with
  | zero =>
    rw [walkFrom_spent]
    refine ⟨by simp [Walk.delivered], by simp [Walk.fetched], fun error => ?_⟩
    cases leave with
    | zero => simp [walkFrom_spent]
    | succ leave =>
      rcases fetched : pager.fetch token state with ⟨failure | page, after⟩
      · simp [walkFrom_failed fetched, Walk.fetched]
      · rw [walkFrom_page fetched]
        cases page.continuation <;> simp [Walk.fetched, Walk.after, isCapped_free free]
  | succ count ih =>
    obtain ⟨leave, rfl⟩ : ∃ rest, leave = rest + 1 := ⟨leave - 1, by omega⟩
    rcases fetched : pager.fetch token state with ⟨error | page, after⟩
    · simp [walkFrom_failed fetched, Walk.delivered, Walk.fetched]
    · rw [walkFrom_page fetched, walkFrom_page fetched]
      cases page.continuation with
      | none => simp [Walk.delivered, Walk.fetched]
      | some link =>
        obtain ⟨pages, fetches, fails⟩ := ih leave (seen + 1) (by omega) (some link) after
        simp [isCapped_free free, pages, fetches, fails]

/-- Nobody stops a walk who wants all of it. -/
theorem walkFrom_unstopped (pager : Pager σ ε κ) (emit : Page κ → List α) (leave seen : Nat)
    (token : Option Wide) (state : σ) :
    (pager.walkFrom emit leave seen none token state).1.ending ≠ .stopped := by
  induction leave generalizing seen token state with
  | zero => simp [walkFrom_spent]
  | succ leave ih =>
    rcases fetched : pager.fetch token state with ⟨error | page, after⟩
    · simp [walkFrom_failed fetched]
    · rw [walkFrom_page fetched]
      cases page.continuation with
      | none => simp
      | some link =>
        dsimp only
        split
        · simp
        · simp [ih (seen + 1) (some link) after]

/-! ## Whole walks -/

/-- The walk over all items of a list goes on behind some pages as the one from their link does:
it hands on the items of these pages first, and then does what that one does. -/
structure GoesOn (pager : Pager σ ε κ) (count : Nat) (token : Option Wide) (state : σ)
    (first : Walk ε (Page κ)) (link : Wide) (left : σ) (leave : Nat) : Prop where
  steps : (pager.items (count + leave) none token state).1.steps =
    (first.spread Page.items).steps ++ (pager.items leave none (some link) left).1.steps
  items : (pager.items (count + leave) none token state).1.delivered =
    first.delivered.flatMap Page.items ++ (pager.items leave none (some link) left).1.delivered
  fetches : (pager.items (count + leave) none token state).1.fetched =
    first.fetched ++ (pager.items leave none (some link) left).1.fetched
  ending : (pager.items (count + leave) none token state).1.ending =
    (pager.items leave none (some link) left).1.ending
  left_eq : (pager.items (count + leave) none token state).2 =
    (pager.items leave none (some link) left).2
  collected : (pager.collect (count + leave) token state).1 =
    (pager.collect leave (some link) left).1.map (first.delivered.flatMap Page.items ++ ·)

/-- The walk over all pages of a list is the one without a cap up to its first `most` pages: it
makes no fetch behind them, it fails if that one fails within as many fetches, and it always
comes to an end. -/
structure CutsAt (pager : Pager σ ε κ) (most leave : Nat) (token : Option Wide) (state : σ) :
    Prop where
  pages : (pager.pages leave none token state).1.delivered =
    (pager.uncapped.pages leave none token state).1.delivered.take most
  fetches : (pager.pages leave none token state).1.fetched =
    (pager.uncapped.pages leave none token state).1.fetched.take most
  fails : ∀ error, (pager.pages leave none token state).1.ending = .failed error ↔
    (pager.uncapped.pages leave none token state).1.ending = .failed error ∧
      (pager.uncapped.pages leave none token state).1.fetched.length ≤ most
  ends : (pager.pages leave none token state).1.ending = .exhausted ∨
    ∃ error, (pager.pages leave none token state).1.ending = .failed error
  left_eq : (pager.pages leave none token state).2 =
    (pager.uncapped.pages most none token state).2

theorem tokenOf_ne (token : Option Wide) : tokenOf token ≠ some (.plain "") := by
  unfold tokenOf
  simp [Option.filter_eq_some_iff]

theorem tokenOf_link {page : Page κ} {link : Wide} (named : page.continuation = some link) :
    tokenOf (some link) = some link := by
  simp [tokenOf, continuation_ne named]

/-- Who goes on at the link of the last page that was taken gets all that is left of a walk. -/
theorem leavesOff_goesOn (free : pager.IsFree) {count : Nat} {first : Walk ε (Page κ)}
    {link : Wide} {left : σ} (leaves : pager.LeavesOff count token state first link left)
    (leave : Nat) : pager.GoesOn count token state first link left leave := by
  obtain ⟨⟨given, walked⟩, taken, named⟩ := leaves
  obtain ⟨page, last, continues⟩ := Option.bind_eq_some_iff.mp named
  have some : count ≠ 0 := by
    rintro rfl
    simp [List.eq_nil_of_length_eq_zero taken] at last
  have ran : pager.walkFrom (fun page => [page]) given 0 (.some count) (tokenOf token) state =
      (first, left) := by
    simpa [pages, walk, some] using walked
  have resumed := walkFrom_resumed free ran taken named leave 0
  have whole : pager.items (count + leave) none token state =
      ((pager.items leave none (.some link) left).1.after (first.spread Page.items).steps,
        (pager.items leave none (.some link) left).2) := by
    show pager.walkFrom Page.items (count + leave) 0 none (tokenOf token) state =
      ((pager.walkFrom Page.items leave 0 none (tokenOf (.some link)) left).1.after _,
        (pager.walkFrom Page.items leave 0 none (tokenOf (.some link)) left).2)
    rw [tokenOf_link continues, walkFrom_spread pager Page.items (count + leave), resumed,
      walkFrom_spread pager Page.items leave, Walk.spread_after]
    rfl
  constructor
  · rw [whole]
    rfl
  · rw [whole, Walk.delivered_after, Walk.delivered_spread]
  · rw [whole, Walk.fetched_after, Walk.fetched_spread]
  · rw [whole, Walk.after_ending]
  · rw [whole]
  · show (pager.items (count + leave) none token state).1.result = _
    rw [whole, Walk.result_after, Walk.delivered_spread]
    rfl

theorem capsAt_cutsAt {most : Nat} (caps : pager.CapsAt most) {leave : Nat} (enough : most ≤ leave)
    (token : Option Wide) (state : σ) : pager.CutsAt most leave token state := by
  have cut (token : Option Wide) :=
    walkFrom_capped caps leave 0 most (Nat.zero_add most) caps.1 enough token state
  have first (token : Option Wide) :=
    walkFrom_first (isFree_uncapped pager) most leave 0 enough token state
  have whole (pager : Pager σ ε κ) (leave : Nat) : pager.pages leave none token state =
      pager.walkFrom (fun page => [page]) leave 0 none (tokenOf token) state := rfl
  obtain ⟨pages, fetches, fails⟩ := first (tokenOf token)
  constructor
  · rw [whole, whole, cut, ← pages]
    simp [Walk.delivered, Walk.closed_steps]
  · rw [whole, whole, cut, ← fetches]
    simp [Walk.fetched, Walk.closed_steps]
  · intro error
    rw [whole, whole, cut, Walk.closed_failed, fails error]
  · rw [whole, cut]
    exact Walk.closed_ends _ (walkFrom_unstopped _ _ _ _ _ _)
  · rw [whole, whole, cut]

/-- The items of a walk are those of its pages. Where no cap is set, or a cap of zero, every
walk does what it would without one, and whoever goes on at a link gets what is left. A cap of
more than zero cuts a walk at as many pages, from wherever it starts; one below zero leaves
the first page. -/
theorem walks_parted (pager : Pager σ ε κ) (token : Option Wide) (state : σ) :
    (∀ leave, pager.items leave none token state =
      ((pager.pages leave none token state).1.spread Page.items,
        (pager.pages leave none token state).2)) ∧
    (pager.IsFree → ∀ leave, pager.pages leave none token state =
      pager.uncapped.pages leave none token state) ∧
    (pager.IsFree → ∀ count first link left, pager.LeavesOff count token state first link left →
      ∀ leave, pager.GoesOn count token state first link left leave) ∧
    (∀ most : Nat, 0 < most → pager.maxPages = some (most : Int) →
      ∀ leave, most ≤ leave → pager.CutsAt most leave token state) ∧
    (∀ cap, cap < 0 → pager.maxPages = some cap →
      ∀ leave, 1 ≤ leave → pager.CutsAt 1 leave token state) := by
  refine ⟨fun leave => ?_, fun free leave => ?_, fun free count first link left leaves leave => ?_,
    fun most positive capped leave enough => ?_, fun cap negative capped leave enough => ?_⟩
  · exact walkFrom_spread pager Page.items leave 0 (tokenOf token) state
  · exact walkFrom_free free leave 0 0 none (tokenOf token) state
  · exact leavesOff_goesOn free leaves leave
  · exact capsAt_cutsAt (capsAt_positive positive capped) enough token state
  · exact capsAt_cutsAt (capsAt_negative negative capped) enough token state

end Pager

/-- Three pages, each of which links to the next. -/
def threePages : PageTable String where
  first := .page ⟨["a"], some "p1"⟩
  pages := [("p1", .page ⟨["b"], some "p2"⟩), ("p2", .page ⟨["c"], none⟩)]

/-- The second and the third page, from where the first one leaves off. -/
theorem walks_parted_second :
    (threePages.pager none).LeavesOff 1 none [] ⟨[.fetch none, .deliver ⟨["a"], some "p1"⟩], .stopped⟩
      "p1" [none] ∧
    ((threePages.pager none).items 4 none none []).1.delivered =
      ["a"] ++ ((threePages.pager none).items 3 none (some "p1") [none]).1.delivered := by
  have leaves : (threePages.pager none).LeavesOff 1 none []
      ⟨[.fetch none, .deliver ⟨["a"], some "p1"⟩], .stopped⟩ "p1" [none] :=
    ⟨⟨1, rfl⟩, rfl, rfl⟩
  obtain ⟨-, -, resumes, -⟩ := Pager.walks_parted (threePages.pager none) none []
  exact ⟨leaves, (resumes (.inl rfl) 1 _ _ _ leaves 3).items⟩

/-- With a cap, whoever goes on at a link may get more than what is left of the walk: the cap
counts the pages anew. -/
theorem resumed_past_cap :
    (threePages.pager (some 2)).LeavesOff 1 none []
      ⟨[.fetch none, .deliver ⟨["a"], some "p1"⟩], .stopped⟩ "p1" [none] ∧
    ∀ leave, 2 ≤ leave → ((threePages.pager (some 2)).items (1 + leave) none none []).1.delivered ≠
      ["a"] ++ ((threePages.pager (some 2)).items leave none (some "p1") [none]).1.delivered := by
  refine ⟨⟨⟨1, rfl⟩, rfl, rfl⟩, fun leave enough => ?_⟩
  obtain ⟨more, rfl⟩ : ∃ more, leave = more + 2 := ⟨leave - 2, by omega⟩
  have whole : ((threePages.pager (some 2)).items (1 + (more + 2)) none none []).1.delivered =
      ["a", "b"] := by
    rw [Nat.add_comm]
    rfl
  have rest : ((threePages.pager (some 2)).items (more + 2) none (some "p1") [none]).1.delivered =
      ["b", "c"] := rfl
  rw [whole, rest]
  simp

end LakeAdmin
