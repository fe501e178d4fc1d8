import LakeAdmin.Proofs.Model.Range
import LakeAdmin.Proofs.Service.Submission

/-!
Firewall rules on their way to the service. What is sent for a range is what was given, in one
form; what is no range is not sent.
-/

namespace LakeAdmin

open Http Http.Action

variable {document : Json} {parameters : Parameters}

/-- Parameters that give no range are refused, with a reason, and nothing has been done. -/
theorem range_refused (pass : parameters.Pass document)
    (unfit : ¬∃ body, parameters.IsRange body) (client : Client) (identity : Option Identity)
    (location : Option String) (world : World) :
    ∃ problems, problems ≠ [] ∧
      (client.call .putFirewallRule identity parameters location).run world =
        (.error (.invalidArgument problems), world) := by
  refine refused_run
    (call_complains .putFirewallRule identity none parameters location none world)
    (call_reasoned .putFirewallRule identity parameters location) (.parameters fun fits => ?_)
  obtain ⟨body, accepted⟩ :=
    (body_checks (.call .putFirewallRule) parameters).passes (not_not_intro fits)
  exact unfit ⟨body, (range_body pass body).mp accepted⟩

/-- Where a firewall rule is put, parameters are accepted exactly if they give a range, and what
is sent is that range: both ends as dotted quads of the addresses that were given, the lower one
first. All else is refused. Where a rule is changed, an end is sent exactly if it was given, in
the same form. -/
theorem firewall_ranges (pass : parameters.Pass document) (client : Client)
    (identity : Option Identity) (location : Option String) (world : World) :
    (∀ body, CallOperation.putFirewallRule.bodyRule.body parameters = .ok body ↔
      parameters.IsRange body) ∧
    Submission "PUT" parameters.IsRange
      (failure? ((client.call .putFirewallRule identity parameters location).run world).1) world
      ((client.call .putFirewallRule identity parameters location).run world).2 ∧
    ((¬∃ body, parameters.IsRange body) → ∃ problems, problems ≠ [] ∧
      (client.call .putFirewallRule identity parameters location).run world =
        (.error (.invalidArgument problems), world)) ∧
    (∀ body, CallOperation.updateFirewallRule.bodyRule.body parameters = .ok body ↔
      (parameters.document = .null ∨ parameters.document.IsObject) ∧
        parameters.IsPartOfRange body) ∧
    Submission "PATCH" parameters.IsPartOfRange
      (failure? ((client.call .updateFirewallRule identity parameters location).run world).1) world
      ((client.call .updateFirewallRule identity parameters location).run world).2 := by
  have put := call_submission client .putFirewallRule (by decide) identity parameters location
    world
  have patched := call_submission client .updateFirewallRule (by decide) identity parameters
    location world
  exact ⟨range_body pass, put.mono fun body => (range_body pass body).mp,
    fun unfit => range_refused pass unfit client identity location world, part_body pass,
    patched.mono fun body accepted => ((part_body pass body).mp accepted).2⟩

/-- A range whose end is smaller than its start as a text, and larger as a number, by which it is
given. -/
theorem firewall_ranges_numeric :
    let document : Json := .obj [
      ("start_ip_address", .str "10.0.0.9"), ("end_ip_address", .int 0x0A00000A)]
    (Parameters.plain document).Pass document ∧
      CallOperation.putFirewallRule.bodyRule.body (.plain document) = .ok (.obj [("properties",
        .obj [("startIpAddress", .str "10.0.0.9"), ("endIpAddress", .str "10.0.0.10")])]) := by
  intro document
  have pass : (Parameters.plain document).Pass document := .plain
  have ranges := firewall_ranges pass (Client.ofSettings .standard) none none
    (World.fresh [] 0 none)
  refine ⟨pass, (ranges.1 _).mpr ⟨"10.0.0.9", "10.0.0.10", 0x0A000009, 0x0A00000A, ?_, ?_,
    by decide, rfl⟩⟩
  · exact ⟨.str "10.0.0.9", rfl, ⟨10, 0, 0, 9, by decide +kernel, rfl⟩, rfl⟩
  · exact ⟨.int 0x0A00000A, rfl, ⟨10, 0, 0, 10, by decide +kernel, rfl⟩, rfl⟩

/-- The zero address is an end like all others, the one that is null is none. -/
example : CallOperation.updateFirewallRule.bodyRule.body (.plain (.obj [
    ("start_ip_address", .int 0), ("end_ip_address", .null)])) =
      .ok (.obj [("properties", .obj [("startIpAddress", .str "0.0.0.0")])]) := by
  rfl

end LakeAdmin
