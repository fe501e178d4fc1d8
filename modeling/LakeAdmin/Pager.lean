import LakeAdmin.Failure
import LakeAdmin.Model.Resource

/-!
Walks over the pages of a list. A walk fetches one page, hands on all that it holds,
and only then fetches the page its link names, until a page has no link, a page
cannot be fetched, the cap on pages is reached, or the caller has had enough.
-/

namespace LakeAdmin

/-- A way to fetch pages in a state: the first one, or the one a token names. -/
abbrev PageSource (σ ε κ : Type) := Option Wide → σ → Except ε (Page κ) × σ

/-- A list that comes in pages. A cap of zero is no cap. -/
structure Pager (σ ε κ : Type) where
  fetch : PageSource σ ε κ
  maxPages : Option Int

/-- What a walk does: it fetches a page and hands elements on. -/
inductive WalkStep (α : Type) where
  | fetch (token : Option Wide)
  | deliver (element : α)
  deriving DecidableEq, Repr

/-- How a walk ends. It is unfinished if it had no leave to fetch another page. -/
inductive WalkEnd (ε : Type) where
  | exhausted
  | stopped
  | failed (error : ε)
  | unfinished
  deriving DecidableEq, Repr

structure Walk (ε α : Type) where
  steps : List (WalkStep α)
  ending : WalkEnd ε
  deriving DecidableEq, Repr

namespace Walk

def delivered (walk : Walk ε α) : List α :=
  walk.steps.filterMap fun
    | .deliver element => some element
    | .fetch _ => none

/-- The tokens of the pages that were fetched. -/
def fetched (walk : Walk ε α) : List (Option Wide) :=
  walk.steps.filterMap fun
    | .fetch token => some token
    | .deliver _ => none

/-- What follows a first stretch of a walk. -/
def after (walk : Walk ε α) (steps : List (WalkStep α)) : Walk ε α :=
  { walk with steps := steps ++ walk.steps }

/-- All elements, or the failure of the walk. -/
def result (walk : Walk ε α) : Except ε (List α) :=
  match walk.ending with
  | .failed error => .error error
  | _ => .ok walk.delivered

end Walk

namespace Pager

def isCapped (cap : Option Int) (seen : Nat) : Bool :=
  match cap with
  | none => false
  | some most => decide (most ≠ 0 ∧ most ≤ (seen : Int))

def tokenOf (token : Option Wide) : Option Wide := token.filter (· ≠ "")

/-- The stretch of a walk from one page on. The page is the one after `seen` others,
`demand` is how many elements are still wanted, and `leave` bounds the fetches. -/
def walkFrom (pager : Pager σ ε κ) (emit : Page κ → List α) :
    (leave seen : Nat) → (demand : Option Nat) → (token : Option Wide) → σ → Walk ε α × σ
  | 0, _, _, _, state => (⟨[], .unfinished⟩, state)
  | leave + 1, seen, demand, token, state =>
    match pager.fetch token state with
    | (.error error, state) => (⟨[.fetch token], .failed error⟩, state)
    | (.ok page, state) =>
      let elements := emit page
      let steps := fun l : List α => WalkStep.fetch token :: l.map .deliver
      if demand.any (· ≤ elements.length) then
        (⟨steps (elements.take (demand.getD 0)), .stopped⟩, state)
      else
        match page.continuation with
        | none => (⟨steps elements, .exhausted⟩, state)
        | some link =>
          if isCapped pager.maxPages (seen + 1) then (⟨steps elements, .exhausted⟩, state)
          else
            let (rest, state) := walkFrom pager emit leave (seen + 1)
              (demand.map (· - elements.length)) (some link) state
            (rest.after (steps elements), state)

/-- A walk from the page of a token, or from the first one. Nothing is fetched if
nothing is wanted. -/
def walk (pager : Pager σ ε κ) (emit : Page κ → List α) (leave : Nat) (demand : Option Nat)
    (token : Option Wide) (state : σ) : Walk ε α × σ :=
  if demand = some 0 then (⟨[], .stopped⟩, state)
  else pager.walkFrom emit leave 0 demand (tokenOf token) state

def pages (pager : Pager σ ε κ) (leave : Nat) (demand : Option Nat) (token : Option Wide)
    (state : σ) : Walk ε (Page κ) × σ :=
  pager.walk (fun page => [page]) leave demand token state

def items (pager : Pager σ ε κ) (leave : Nat) (demand : Option Nat) (token : Option Wide)
    (state : σ) : Walk ε κ × σ :=
  pager.walk Page.items leave demand token state

/-- Exactly one page: the one of a token, or the first one. -/
def fetchPage (pager : Pager σ ε κ) (token : Option Wide) (state : σ) :
    Except ε (Page κ) × σ :=
  pager.fetch (tokenOf token) state

/-- The items of all pages, or the failure on the way. -/
def collect (pager : Pager σ ε κ) (leave : Nat) (token : Option Wide) (state : σ) :
    Except ε (List κ) × σ :=
  let (walk, state) := pager.items leave none token state
  (walk.result, state)

end Pager

/-! ## Pages from a table -/

/-- What a table has under a token: a page, or the fault that fetching it meets. -/
inductive TableEntry (κ : Type) where
  | page (page : Page κ)
  | fault (status : Int) (body : Document)

/-- A list whose pages are all known beforehand. -/
structure PageTable (κ : Type) where
  first : TableEntry κ
  pages : List (Wide × TableEntry κ)

namespace PageTable

def read : TableEntry κ → Except Failure (Page κ)
  | .page page => .ok page
  | .fault status body => .error (.fault ⟨status, body, none, none⟩)

/-- The page of a token. A token that is not in the table is not found. -/
def get (table : PageTable κ) : Option Wide → Except Failure (Page κ)
  | none => read table.first
  | some token =>
    match table.pages.lookup token with
    | some entry => read entry
    | none => .error (.fault ⟨404, .str (token.after "no page "), none, none⟩)

/-- The pager over a table. Its state are the tokens asked for, the last one first. -/
def pager (table : PageTable κ) (maxPages : Option Int) :
    Pager (List (Option Wide)) Failure κ where
  fetch token asked := (table.get token, token :: asked)
  maxPages := maxPages

/-- Enough fetches for every walk over a table that comes to an end. -/
def leave (table : PageTable κ) (maxPages : Option Int) (demand : Option Nat) : Nat :=
  (table.pages.length + 2) * (demand.getD 0 + 1) + (maxPages.getD 0).toNat

end PageTable

end LakeAdmin
