import LakeAdmin.Proofs.Numeric.Literal
import LakeAdmin.Proofs.Numeric.Order
import LakeAdmin.Proofs.Service.Immediate
import LakeAdmin.Proofs.Settings.Loading

/-!
How long the polls of an operation wait. Each wait is settled by the answer right before it: it
lasts as long as that answer says, or as the settings say where the answer says nothing that can
be read. A wait is never negative. But literals for infinity are read like others, and so are
those of numbers beyond all doubles, and the settings accept everything that is not less than
zero; so a wait need not end, and the waits of a run end if and only if each answer lets them.
-/

namespace LakeAdmin

open Http Poller Schema Settings

/-! ## Numbers that a wait can last -/

namespace Binary64

/-- A whole number of units, not less than none. -/
def IsSpan (x : Binary64) : Prop := ∃ n : Nat, x.units? = some (n : Int)

theorem zero_units : (0 : Binary64).units? = some 0 := by decide +kernel

/-- A number that is not negative ends if it is finite. -/
theorem span_iff {x : Binary64} (h : lt x 0 = false) : x.IsSpan ↔ x.isFinite = true := by
  constructor
  · rintro ⟨n, units⟩
    simp [isFinite, units]
  · intro finite
    obtain ⟨n, units⟩ := Option.isSome_iff_exists.mp finite
    rw [lt_units units zero_units, decide_eq_false_iff_not] at h
    exact ⟨n.toNat, by rw [units, Int.toNat_of_nonneg (by omega)]⟩

theorem zero_span : (0 : Binary64).IsSpan := ⟨0, zero_units⟩

theorem not_infinite_lt (x : Binary64) : lt (.infinite false) x = false := by
  cases x <;> rfl

theorem positive_nonneg {x : Binary64} (h : lt 0 x = true) : lt x 0 = false := by
  cases units : x.units? with
  | some n =>
    rw [lt_units zero_units units, decide_eq_true_eq] at h
    rw [lt_units units zero_units, decide_eq_false_iff_not]
    omega
  | none =>
    cases x with
    | infinite negative =>
      cases negative with
      | true =>
        rw [not_lt_infinite] at h
        cases h
      | false => exact not_infinite_lt 0
    | nan => rfl
    | _ => cases units

/-- A positive number ends if it is not the infinite one. -/
theorem positive_span {x : Binary64} (h : lt 0 x = true) : x.IsSpan ↔ x ≠ .infinite false := by
  rw [span_iff (positive_nonneg h)]
  cases x with
  | infinite negative =>
    cases negative with
    | true =>
      rw [not_lt_infinite] at h
      cases h
    | false => simp [isFinite, units?]
  | nan =>
    have none : lt 0 nan = false := by decide +kernel
    rw [none] at h
    cases h
  | _ => simp [isFinite, units?]

/-- How many units numbers make up together, if each of them has some. -/
def total? : List Binary64 → Option Int
  | [] => some 0
  | x :: rest => do
    let units ← x.units?
    let others ← total? rest
    return units + others

/-- Numbers that are not negative have a sum if and only if each of them ends. -/
theorem total?_spans {l : List Binary64} (h : ∀ x ∈ l, lt x 0 = false) :
    (total? l).isSome ↔ ∀ x ∈ l, x.IsSpan := by
  induction l with
  | nil => simp [total?]
  | cons x rest ih =>
    have first := span_iff (h x List.mem_cons_self)
    have others := ih fun y member => h y (List.mem_cons_of_mem x member)
    rw [List.forall_mem_cons, first, ← others]
    unfold isFinite
    cases units : x.units? with
    | none => simp [total?, units]
    | some n => cases sum : total? rest <;> simp [total?, units, sum]

end Binary64

/-! ## One wait -/

namespace Poller

/-- How long an answer says to wait, in its own words. -/
def said (response : Response) : Option String := response.headers.get? "Retry-After"

def Names (words : Option String) (x : Binary64) : Prop :=
  ∃ text ∈ words, Literal.Denotes Text.digit? text x

/-- How long to wait after certain words: the usual interval where there are none, or none that
name a number; the number that they name if it is positive, and no time if it is not. -/
inductive Pause (interval : Binary64) : Option String → Binary64 → Prop
  | absent : Pause interval none interval
  | empty : Pause interval (some "") interval
  | unreadable {text : String} (none : ∀ x, ¬Literal.Denotes Text.digit? text x) :
      Pause interval (some text) interval
  | named {text : String} {x : Binary64} (literal : Literal.Denotes Text.digit? text x)
      (positive : Binary64.lt 0 x = true) : Pause interval (some text) x
  | cut {text : String} {x : Binary64} (literal : Literal.Denotes Text.digit? text x)
      (other : Binary64.lt 0 x = false) : Pause interval (some text) 0

/-- Words after which a wait ends: they name a number other than infinity, or none, and then the
usual interval is finite. -/
def Ends (interval : Binary64) (words : Option String) : Prop :=
  (∃ x, Names words x ∧ x ≠ .infinite false) ∨
    ((∀ x, ¬Names words x) ∧ interval.isFinite = true)

theorem denotes_iff {text : String} {x : Binary64} :
    Literal.Denotes Text.digit? text x ↔ Literal.lenientDecimal? text = some x :=
  (Literal.decimal?_iff Literal.digit?_plain).symm

theorem denotes_unique {text : String} {x y : Binary64}
    (h : Literal.Denotes Text.digit? text x) (h' : Literal.Denotes Text.digit? text y) :
    x = y :=
  Option.some.inj ((denotes_iff.mp h).symm.trans (denotes_iff.mp h'))

/-- The wait after an answer is settled by its words. -/
theorem delay_pause (response : Response) (interval : Binary64) :
    Pause interval (said response) (delay response interval) := by
  unfold delay Headers.filled? said
  cases words : response.headers.get? "Retry-After" with
  | none => exact .absent
  | some text =>
    by_cases empty : text = ""
    · subst empty
      exact .empty
    · have filled : (some text).filter (· ≠ "") = some text := by simp [Option.filter, empty]
      rw [filled, Option.bind_some]
      cases read : Literal.lenientDecimal? text with
      | none =>
        refine .unreadable fun x literal => ?_
        rw [denotes_iff.mp literal] at read
        cases read
      | some x =>
        have literal := denotes_iff.mpr read
        dsimp only
        unfold Binary64.clampToZero
        cases positive : Binary64.lt 0 x with
        | true => exact .named literal positive
        | false => exact .cut literal positive

/-- No wait is negative, unless the usual interval is. -/
theorem pause_nonneg {interval x : Binary64} {words : Option String}
    (usual : Binary64.lt interval 0 = false) (h : Pause interval words x) :
    Binary64.lt x 0 = false := by
  cases h with
  | absent => exact usual
  | empty => exact usual
  | unreadable none => exact usual
  | named literal positive => exact Binary64.positive_nonneg positive
  | cut literal other => decide +kernel

theorem pause_span {interval x : Binary64} {words : Option String}
    (usual : Binary64.lt interval 0 = false) (h : Pause interval words x) :
    x.IsSpan ↔ Ends interval words := by
  have unnamed {words : Option String} (none : ∀ x, ¬Names words x) :
      interval.IsSpan ↔ Ends interval words := by
    rw [Binary64.span_iff usual]
    constructor
    · exact fun finite => .inr ⟨none, finite⟩
    · rintro (⟨x, names, -⟩ | ⟨-, finite⟩)
      · exact absurd names (none x)
      · exact finite
  have named {text : String} {y : Binary64} (literal : Literal.Denotes Text.digit? text y) :
      Ends interval (some text) ↔ y ≠ .infinite false := by
    constructor
    · rintro (⟨z, ⟨_, ⟨⟩, other⟩, finite⟩ | ⟨none, -⟩)
      · rwa [denotes_unique literal other]
      · exact absurd ⟨text, rfl, literal⟩ (none y)
    · exact fun finite => .inl ⟨y, ⟨text, rfl, literal⟩, finite⟩
  cases h with
  | absent => exact unnamed (by simp [Names])
  | empty =>
    refine unnamed ?_
    rintro x ⟨_, ⟨⟩, literal⟩
    have none : Literal.lenientDecimal? "" = none := by decide +kernel
    rw [denotes_iff.mp literal] at none
    cases none
  | unreadable none =>
    refine unnamed ?_
    rintro x ⟨_, ⟨⟩, literal⟩
    exact none x literal
  | named literal positive => rw [named literal, Binary64.positive_span positive]
  | @cut text y literal other =>
    rw [named literal]
    refine ⟨fun _ => ?_, fun _ => Binary64.zero_span⟩
    rintro rfl
    have positive : Binary64.lt 0 (.infinite false) = true := by decide +kernel
    rw [positive] at other
    cases other

end Poller

/-! ## All waits -/

/-- The answers that the waits of polls follow, where a place may be asked `left` times, the last
answer and the replies to come are given. Behind each poll that leaves the operation pending, its
answer is the one that the next wait follows. -/
inductive Client.Waits (client : Client) (protocol : Protocol) (url : String) :
    (left : Nat) → Response → List Reply → List Response → Prop
  | none {last : Response} {queue : List Reply} : Client.Waits client protocol url 0 last queue []
  | last {left : Nat} {last : Response} {queue : List Reply} :
      Client.Waits client protocol url (left + 1) last queue [last]
  | next {left : Nat} {last response : Response} {queue rest : List Reply} {request : Request}
      {answers : List Response} (leaves : client.Leaves queue rest)
      (asks : client.Asks "GET" url none .null request)
      (answer : outcome request rest = .ok response)
      (verdict : protocol.verdict url response = .pending)
      (more : Client.Waits client protocol url left response rest.tail answers) :
      Client.Waits client protocol url (left + 1) last queue (last :: answers)

def Deed.wait? : Deed → Option Binary64
  | .asked _ => none
  | .slept seconds => some seconds

theorem sleeps_deeds (world : World) : world.sleeps = world.deeds.filterMap Deed.wait? := by
  unfold World.sleeps World.deeds
  rw [List.filterMap_filterMap]
  congr 1
  funext event
  cases event with
  | sent request => cases form : request.body.isForm <;> simp [Event.deed?, Deed.wait?, form]
  | slept seconds => rfl
  | noted note => rfl

/-- Each wait of the polls is as long as the answer before it lets it be. -/
theorem polling_waits {client : Client} {protocol : Protocol} {url : String} {left : Nat}
    {last : Response} {queue rest : List Reply} {deeds : List Deed}
    {result : Except Failure Response}
    (h : client.Polling protocol url left last queue deeds result rest) :
    ∃ answers, client.Waits protocol url left last queue answers ∧
      deeds.filterMap Deed.wait? = answers.map (delay · client.pollInterval) := by
  induction h with
  | timedOut => exact ⟨[], .none, rfl⟩
  | unsent why leaves => exact ⟨_, .last, rfl⟩
  | lost leaves asks none => exact ⟨_, .last, rfl⟩
  | failed leaves asks answer verdict => exact ⟨_, .last, rfl⟩
  | done leaves asks answer verdict => exact ⟨_, .last, rfl⟩
  | pending leaves asks answer verdict more ih =>
    obtain ⟨answers, waits, lengths⟩ := ih
    refine ⟨_, .next leaves asks answer verdict waits, ?_⟩
    simp only [List.filterMap_cons, Deed.wait?, lengths, List.map_cons]

theorem waits_length {client : Client} {protocol : Protocol} {url : String} {left : Nat}
    {last : Response} {queue : List Reply} {answers : List Response}
    (h : client.Waits protocol url left last queue answers) : answers.length ≤ left := by
  induction h with
  | none => exact Nat.le_refl 0
  | last => exact Nat.succ_le_succ (Nat.zero_le _)
  | next leaves asks answer verdict more ih => exact Nat.succ_le_succ ih

theorem waits_head {client : Client} {protocol : Protocol} {url : String} {left : Nat}
    {last : Response} {queue : List Reply} {answers : List Response} (some : 0 < left)
    (h : client.Waits protocol url left last queue answers) : ∃ more, answers = last :: more := by
  cases h with
  | none => cases some
  | last => exact ⟨_, rfl⟩
  | next => exact ⟨_, rfl⟩

/-- A request is no wait. -/
theorem turn_sleeps {client : Client} {method reference : String}
    {params : Option (List (String × String))} {json : Json} {before after : World}
    {result : Except Failure Response}
    (h : client.Turn method reference params json before result after) :
    after.sleeps = before.sleeps := by
  rw [sleeps_deeds, sleeps_deeds]
  cases h with
  | unsent why deeds leaves => rw [deeds]
  | sent asks leaves deeds replies => simp [deeds, Deed.wait?]

/-- What follows the polls does not wait. -/
theorem reread_sleeps (client : Client) (resource : Option String) (last : Response)
    (world : World) :
    (((match resource with
      | some path => client.send "GET" path [] .null []
      | none => pure last : Action Response)).run world).2.sleeps = world.sleeps := by
  cases resource with
  | none => rfl
  | some path => exact turn_sleeps (send_turn client "GET" path [] .null [] world)

/-- The waits for an operation follow the answers of its polls, if there is a place to ask. -/
theorem wait_sleeps (client : Client) (initial : Response) (resource : Option String)
    (world : World) :
    ∃ answers,
      ((wait client initial resource).run world).2.sleeps =
        world.sleeps ++ answers.map (delay · client.pollInterval) ∧
      (placeOf? initial = none → answers = []) ∧
      ∀ protocol url, placeOf? initial = some (protocol, url) →
        client.Waits protocol url client.maxPolls.toNat initial world.replies answers := by
  cases place : placeOf? initial with
  | none =>
    refine ⟨[], ?_, fun _ => rfl, by rintro _ _ ⟨⟩⟩
    rw [wait_placeless place, List.map_nil, List.append_nil]
    split
    · exact reread_sleeps client _ initial world
    · rfl
  | some found =>
    obtain ⟨protocol, url⟩ := found
    obtain ⟨deeds, polling, polled⟩ := poll_polling client protocol (placeOf_ne place)
      client.maxPolls.toNat 1 initial world
    obtain ⟨answers, waits, lengths⟩ := polling_waits polling
    refine ⟨answers, ?_, by rintro ⟨⟩, by rintro _ _ ⟨⟩; exact waits⟩
    have slept : ((protocol.poll client url client.maxPolls.toNat 1 initial).run world).2.sleeps =
        world.sleeps ++ answers.map (delay · client.pollInterval) := by
      rw [sleeps_deeds, polled, List.filterMap_append, lengths, sleeps_deeds]
    rw [wait_run place, Action.run_bind]
    rcases run : (protocol.poll client url client.maxPolls.toNat 1 initial).run world with
      ⟨failure | last, after⟩
    · rw [run] at slept
      exact slept
    · rw [run] at slept
      exact (reread_sleeps client _ last after).trans slept

/-- The interval of settings is not less than zero. -/
theorem pollInterval_nonneg {sources : Sources} {settings : Settings}
    (loaded : ofSources sources = .valid settings) :
    Binary64.lt settings.pollInterval 0 = false := by
  have polled := (ofSources_gives loaded).2
  unfold Sources.Gives at polled
  split at polled
  · obtain ⟨-, kept⟩ := keeping_valid polled
    simpa using kept
  · rw [polled]
    decide +kernel

/-- Whoever waits for an operation, with the interval that settings give, waits behind the first
answer and then behind each that leaves the operation pending, not more often than the client
allows. Each wait is settled by the words of that answer alone and is not negative. It ends if
they name a number other than infinity, or if they name none and the interval is finite; and the
waits of a run have a sum if and only if each of them ends. -/
theorem wait_paced {given : Members} {environment : List (String × String)} {file : String}
    {settings : Settings} (loaded : load given environment file = .valid settings)
    {client : Client} (paced : client.pollInterval = settings.pollInterval) (initial : Response)
    (resource : Option String) (world : World) :
    ∃ answers,
      ((wait client initial resource).run world).2.sleeps =
        world.sleeps ++ answers.map (delay · settings.pollInterval) ∧
      (placeOf? initial = none → answers = []) ∧
      (∀ protocol url, placeOf? initial = some (protocol, url) →
        client.Waits protocol url client.maxPolls.toNat initial world.replies answers) ∧
      answers.length ≤ client.maxPolls.toNat ∧
      (∀ answer ∈ answers,
        Pause settings.pollInterval (said answer) (delay answer settings.pollInterval) ∧
          Binary64.lt (delay answer settings.pollInterval) 0 = false ∧
          ((delay answer settings.pollInterval).IsSpan ↔
            Ends settings.pollInterval (said answer))) ∧
      ((Binary64.total? (answers.map (delay · settings.pollInterval))).isSome ↔
        ∀ answer ∈ answers, Ends settings.pollInterval (said answer)) := by
  have usual := pollInterval_nonneg loaded
  obtain ⟨answers, sleeps, placeless, waits⟩ := wait_sleeps client initial resource world
  rw [paced] at sleeps
  have nonneg (answer : Response) :=
    pause_nonneg usual (delay_pause answer settings.pollInterval)
  have span (answer : Response) := pause_span usual (delay_pause answer settings.pollInterval)
  refine ⟨answers, sleeps, placeless, waits, ?_, ?_, ?_⟩
  · cases place : placeOf? initial with
    | none =>
      rw [placeless place]
      exact Nat.zero_le _
    | some found => exact waits_length (waits found.1 found.2 place)
  · exact fun answer _ => ⟨delay_pause answer _, nonneg answer, span answer⟩
  · rw [Binary64.total?_spans (by simpa using fun answer _ => nonneg answer)]
    simp only [List.forall_mem_map, span]

/-- A first wait of ten and a half seconds, one without end because the answer names infinity,
and one without end because the settings hold no number and the answer names none. -/
theorem wait_paced_endless : ∃ settings : Settings,
    load [] [("LRO_POLL_INTERVAL", "nan")] "" = .valid settings ∧ settings.pollInterval = .nan ∧
      ∀ words wait ends, (words, wait, ends) ∈
          [([("Retry-After", " 1_0.5e0")], Binary64.ofDecimal false 105 (-1), true),
            ([("Retry-After", "inf")], .infinite false, false), ([], .nan, false)] →
        ∃ answers : List Response,
          ((Poller.wait (Client.ofSettings settings) ⟨202, ("Location", "/o") :: words, [], none, none, 100⟩
              none).run (World.fresh [.response (.bare 200)] 1000 none)).2.sleeps =
            wait :: answers.map (delay · .nan) ∧ (ends = true ↔ wait.IsSpan) ∧
          (ends = false →
            Binary64.total? (wait :: answers.map (delay · .nan)) = none) := by
  have field : (load [] [("LRO_POLL_INTERVAL", "nan")] "").toOption.map
      (fun settings => (settings.pollInterval, settings.maxPolls)) = some (.nan, 120) := by
    decide +kernel
  obtain ⟨settings, loaded, same⟩ := Option.map_eq_some_iff.mp field
  obtain ⟨interval, polls⟩ := Prod.mk.inj same
  refine ⟨settings, valid_of_toOption loaded, interval, ?_⟩
  intro words wait ends listed
  have placed : placeOf? ⟨202, ("Location", "/o") :: words, [], none, none, 100⟩ = some (.location, "/o") := by
    simp only [List.mem_cons, Prod.mk.injEq, List.not_mem_nil, or_false] at listed
    rcases listed with ⟨rfl, -⟩ | ⟨rfl, -⟩ | ⟨rfl, -⟩ <;> decide +kernel
  have first : delay ⟨202, ("Location", "/o") :: words, [], none, none, 100⟩ .nan = wait ∧
      ends = wait.isFinite := by
    simp only [List.mem_cons, Prod.mk.injEq, List.not_mem_nil, or_false] at listed
    rcases listed with ⟨rfl, same, rfl⟩ | ⟨rfl, same, rfl⟩ | ⟨rfl, same, rfl⟩ <;>
      (rw [same]; decide +kernel)
  have paced : (Client.ofSettings settings).pollInterval = settings.pollInterval := rfl
  obtain ⟨answers, sleeps, -, waits, -, each, total⟩ := wait_paced (valid_of_toOption loaded) paced
    ⟨202, ("Location", "/o") :: words, [], none, none, 100⟩ none
    (World.fresh [.response (.bare 200)] 1000 none)
  have leave : 0 < (Client.ofSettings settings).maxPolls.toNat := by
    show 0 < settings.maxPolls.toNat
    rw [polls]
    decide
  obtain ⟨more, rfl⟩ := waits_head leave (waits _ _ placed)
  rw [interval] at sleeps each total
  obtain ⟨-, nonneg, span⟩ := each _ List.mem_cons_self
  rw [first.1] at nonneg span
  rw [List.map_cons, first.1] at sleeps total
  have ended := Binary64.span_iff nonneg
  refine ⟨more, sleeps, by rw [ended, first.2], ?_⟩
  intro endless
  rw [← Option.not_isSome_iff_eq_none, total]
  intro all
  have finite := ended.mp (span.mpr (all _ List.mem_cons_self))
  rw [← first.2, endless] at finite
  cases finite

end LakeAdmin
