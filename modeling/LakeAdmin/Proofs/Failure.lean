import LakeAdmin.Proofs.Http.Decode
import LakeAdmin.Proofs.Json.Display

/-!
Failures that count as one, and the keys they are filed under. To count as one is symmetric and
transitive. But faults are compared by what their bodies denote and filed by how these look, so
faults that count as one are filed under one key only if their bodies are the very same value,
with its members in the same order and its numbers written in the same way.
-/

namespace LakeAdmin

/-- The body of a refusal repeats no name. -/
theorem refusal_distinct {response : Http.Response} {body : Document}
    (h : response.refusal = .ok body) : body.Distinct := by
  cases spoken : response.text with
  | error fault =>
    rw [Http.Response.refusal_unspoken spoken] at h
    cases h
  | ok text =>
    by_cases blank : text.allBlank = true
    · rw [Http.Response.refusal_blank spoken blank] at h
      cases h
      exact .str _
    · rw [Http.Response.refusal_full spoken blank] at h
      split at h
      · rename_i read
        cases h
        exact Json.ofBytes_distinct read
      · cases h
        exact .str _
      · cases h

/-- Faults are filed under one key if they have one status and their bodies one form. -/
theorem Fault.key_iff {a b : Fault} (distinct : a.body.Distinct) (distinct' : b.body.Distinct)
    (h : a.same b = true) : a.key = b.key ↔ a.body = b.body := by
  unfold Fault.same at h
  rw [Bool.and_eq_true, beq_iff_eq] at h
  unfold Fault.key
  rw [Prod.mk.injEq]
  constructor
  · rintro ⟨-, forms⟩
    have texts : a.body.display.toList ++ [] = b.body.display.toList ++ [] := by rw [forms]
    exact (Json.display_front distinct distinct' h.2 (by rintro _ ⟨⟩) (by rintro _ ⟨⟩) texts).1
  · intro bodies
    exact ⟨h.1, by rw [bodies]⟩

theorem Fault.same_symm {a b : Fault} (distinct : a.body.Distinct) (distinct' : b.body.Distinct)
    (h : a.same b = true) : b.same a = true := by
  unfold Fault.same at h ⊢
  rw [Bool.and_eq_true, beq_iff_eq] at h ⊢
  exact ⟨h.1.symm, Json.same_symm distinct distinct' h.2⟩

theorem Fault.same_trans {a b c : Fault} (distinct : a.body.Distinct)
    (distinct' : b.body.Distinct) (distinct'' : c.body.Distinct) (h : a.same b = true)
    (h' : b.same c = true) : a.same c = true := by
  unfold Fault.same at h h' ⊢
  rw [Bool.and_eq_true, beq_iff_eq] at h h' ⊢
  exact ⟨h.1.trans h'.1, Json.same_trans distinct distinct' distinct'' h.2 h'.2⟩

namespace Failure

/-- The body of a fault, be it that of a call or of an operation. -/
def body? : Failure → Option Document
  | fault f => some f.body
  | operationFailed f _ => some f.body
  | _ => none

/-- No object in the body of a fault repeats a name. -/
def IsDistinct (failure : Failure) : Prop := ∀ body ∈ failure.body?, body.Distinct

variable {a b c : Failure}

theorem same_symm (ha : a.IsDistinct) (hb : b.IsDistinct) (h : a.same b = true) :
    b.same a = true := by
  cases a with
  | fault f =>
    cases b with
    | fault g => exact Fault.same_symm (ha _ rfl) (hb _ rfl) h
    | _ => cases h
  | operationFailed f state =>
    cases b with
    | operationFailed g state' => exact Fault.same_symm (ha _ rfl) (hb _ rfl) h
    | _ => cases h
  | malformed status text reason =>
    cases b with
    | malformed status' text' reason' =>
      simp only [same, Bool.and_eq_true, beq_iff_eq] at h ⊢
      exact ⟨h.1.symm, h.2.symm⟩
    | _ => cases h
  | _ => cases h

theorem same_trans (ha : a.IsDistinct) (hb : b.IsDistinct) (hc : c.IsDistinct)
    (h : a.same b = true) (h' : b.same c = true) : a.same c = true := by
  cases a with
  | fault f =>
    cases b with
    | fault g =>
      cases c with
      | fault k => exact Fault.same_trans (ha _ rfl) (hb _ rfl) (hc _ rfl) h h'
      | _ => cases h'
    | _ => cases h
  | operationFailed f state =>
    cases b with
    | operationFailed g state' =>
      cases c with
      | operationFailed k state'' => exact Fault.same_trans (ha _ rfl) (hb _ rfl) (hc _ rfl) h h'
      | _ => cases h'
    | _ => cases h
  | malformed status text reason =>
    cases b with
    | malformed status' text' reason' =>
      cases c with
      | malformed status'' text'' reason'' =>
        simp only [same, Bool.and_eq_true, beq_iff_eq] at h h' ⊢
        exact ⟨h.1.trans h'.1, h.2.trans h'.2⟩
      | _ => cases h'
    | _ => cases h
  | _ => cases h

/-- Failures that count as one are filed under one key if and only if their bodies are the same
value. -/
theorem sameKey_iff (ha : a.IsDistinct) (hb : b.IsDistinct) (h : a.same b = true) :
    a.sameKey b = true ↔ a.body? = b.body? := by
  cases a with
  | fault f =>
    cases b with
    | fault g =>
      unfold sameKey body?
      rw [beq_iff_eq, Option.some.injEq]
      exact Fault.key_iff (ha _ rfl) (hb _ rfl) h
    | _ => cases h
  | operationFailed f state =>
    cases b with
    | operationFailed g state' =>
      unfold sameKey body?
      rw [beq_iff_eq, Option.some.injEq]
      exact Fault.key_iff (ha _ rfl) (hb _ rfl) h
    | _ => cases h
  | malformed status text reason =>
    cases b with
    | malformed status' text' reason' => simpa [sameKey, body?, same] using h
    | _ => cases h
  | _ => cases h

/-- To count as one failure is symmetric and transitive. Faults that count as one, of calls or of
operations, are filed under one key if and only if their bodies are the very same value. -/
theorem faults_filed (ha : a.IsDistinct) (hb : b.IsDistinct) (hc : c.IsDistinct) :
    a.same b = b.same a ∧ (a.same b = true → b.same c = true → a.same c = true) ∧
      (a.same b = true → (a.sameKey b = true ↔ a.body? = b.body?)) :=
  ⟨Bool.eq_iff_iff.mpr ⟨same_symm ha hb, same_symm hb ha⟩, same_trans ha hb hc, sameKey_iff ha hb⟩

def refused (text : String) : Failure :=
  Http.Response.refused ⟨404, [], Text.Utf8.encode text, none, none, 100⟩

theorem refused_distinct (text : String) : (refused text).IsDistinct := by
  unfold IsDistinct refused
  rcases Http.Response.refused_ends ⟨404, [], Text.Utf8.encode text, none, none, 100⟩ with
    ⟨body, read, same⟩ | unread
  · rw [same]
    rintro _ ⟨⟩
    exact refusal_distinct read
  · generalize Http.Response.refused _ = failure at unread ⊢
    cases unread <;> nofun

/-- Three refusals that count as one. The second has its members in another order, and the third
a number with a point: the bodies are three values, and there are three keys. -/
theorem faults_filed_apart : ∃ first second third : Failure,
    first = refused "\x7b\"a\":1,\"b\":2\x7d" ∧ second = refused "\x7b\"b\":2,\"a\":1\x7d" ∧
      third = refused "\x7b\"b\":2,\"a\":1.0\x7d" ∧
      first.same second = true ∧ second.same first = true ∧ second.same third = true ∧
      first.same third = true ∧ first.sameKey second = false ∧ second.sameKey third = false ∧
      ¬first.body? = second.body? := by
  refine ⟨_, _, _, rfl, rfl, rfl, ?_⟩
  have order : (refused "\x7b\"a\":1,\"b\":2\x7d").same
      (refused "\x7b\"b\":2,\"a\":1\x7d") = true := by decide +kernel
  have point : (refused "\x7b\"b\":2,\"a\":1\x7d").same
      (refused "\x7b\"b\":2,\"a\":1.0\x7d") = true := by decide +kernel
  have apart : (refused "\x7b\"a\":1,\"b\":2\x7d").sameKey
      (refused "\x7b\"b\":2,\"a\":1\x7d") = false := by decide +kernel
  have apart' : (refused "\x7b\"b\":2,\"a\":1\x7d").sameKey
      (refused "\x7b\"b\":2,\"a\":1.0\x7d") = false := by decide +kernel
  obtain ⟨symmetric, transitive, filed⟩ := faults_filed (refused_distinct _) (refused_distinct _)
    (refused_distinct _)
  refine ⟨order, symmetric.symm.trans order, point, transitive order point, apart, apart', ?_⟩
  rw [← filed order, apart]
  exact Bool.false_ne_true

end Failure

end LakeAdmin
