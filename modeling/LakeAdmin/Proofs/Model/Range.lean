import LakeAdmin.Proofs.Json.Shape
import LakeAdmin.Proofs.Model.Passing
import LakeAdmin.Proofs.Net.Ipv4

/-!
Ranges of addresses. An address is given as its dotted quad or as its number, and sent as its
dotted quad. Addresses are compared as numbers. A range that is replaced needs both of its ends,
in order; one that is changed has the ends that are given, whatever address they are.
-/

namespace LakeAdmin

open Schema

/-! ## What is given -/

/-- A value denotes the address of a number, of which a text is the dotted quad: it is that
text, or that number. -/
def Json.Denotes (value : Json) (text : String) (number : Nat) : Prop :=
  Ipv4.IsQuad text number ∧
    match value with
    | .str s => s = text
    | .int n => n = number
    | .bool b => b.toNat = number
    | _ => False

namespace Parameters

/-- The document that parameters amount to: of a value, all its members. -/
def document : Parameters → Json
  | plain value => value
  | checked model => .obj model.toMembers

/-- Parameters have an address under a name. -/
def Names (parameters : Parameters) (name text : String) (number : Nat) : Prop :=
  ∃ value, parameters.document.at? [name] = some value ∧ value.Denotes text number

/-- Parameters have an address under a name, or have nothing there but null. -/
def MayName (parameters : Parameters) (name : String) : Option String → Prop
  | some text => ∃ number, parameters.Names name text number
  | none => ∀ value ∈ parameters.document.at? [name], value = .null

/-- A body holds the range that parameters give: both its ends, in order. -/
def IsRange (parameters : Parameters) (body : Json) : Prop :=
  ∃ first last low high,
    parameters.Names "start_ip_address" first low ∧
    parameters.Names "end_ip_address" last high ∧ low ≤ high ∧
    body = .obj [("properties",
      .obj [("startIpAddress", .str first), ("endIpAddress", .str last)])]

/-- A body holds the ends of a range that parameters give. -/
def IsPartOfRange (parameters : Parameters) (body : Json) : Prop :=
  ∃ first last,
    parameters.MayName "start_ip_address" first ∧ parameters.MayName "end_ip_address" last ∧
    body = .obj [("properties",
      .obj ((first.map fun text => ("startIpAddress", Json.str text)).toList ++
        (last.map fun text => ("endIpAddress", Json.str text)).toList))]

end Parameters

/-! ## Addresses -/

theorem ofOption_valid {found : Option Ipv4} {address : Ipv4} :
    Check.ipv4.ofOption found = .valid address ↔ found = some address := by
  cases found <;> simp [Check.ipv4.ofOption, Checked.fail]

theorem ofInt?_some {n : Int} {address : Ipv4} :
    Ipv4.ofInt? n = some address ↔ n = address.value := by
  obtain ⟨value, small⟩ := address
  unfold Ipv4.ofInt?
  constructor
  · intro found
    split at found
    · cases found
      dsimp only
      omega
    · cases found
  · rintro rfl
    rw [dif_pos (by dsimp only; omega)]
    simp

/-- What passes for an address denotes it. -/
theorem ipv4_valid {value : Json} {address : Ipv4} :
    Check.ipv4 value = .valid address ↔ value.Denotes address.toText address.value := by
  unfold Json.Denotes
  rw [and_iff_right (Ipv4.toText_quad address)]
  cases value with
  | str s => exact ofOption_valid.trans Ipv4.ofText?_iff
  | int n => exact ofOption_valid.trans ofInt?_some
  | bool b =>
    have whole (n : Nat) : (n : Int) = address.value ↔ n = address.value := by omega
    refine ofOption_valid.trans (ofInt?_some.trans ?_)
    cases b with
    | false => exact whole 0
    | true => exact whole 1
  | _ => simp [Check.ipv4, Checked.fail]

/-! ## Members -/

variable {members : Members} {name : String}

theorem required_iff {α : Type} {check : Check α} {a : α} :
    Check.required members name check = .valid a ↔
      ∃ value, members.get? name = some value ∧ check value = .valid a := by
  constructor
  · exact required_valid
  · rintro ⟨value, found, passed⟩
    unfold Check.required
    rw [found]
    dsimp only
    rw [passed]
    rfl

theorem nullable_iff {α : Type} {check : Check α} {value : Json} {given : Option α} :
    Check.nullable check value = .valid given ↔
      (value = .null ∧ given = none) ∨
        (value ≠ .null ∧ ∃ a, check value = .valid a ∧ given = some a) := by
  by_cases null : value = .null
  · subst null
    simp [Check.nullable, eq_comm]
  · have mapped : Check.nullable check value = (check value).map some := by
      unfold Check.nullable
      split
      · exact absurd rfl null
      · rfl
    rw [mapped]
    cases check value <;> simp [Checked.map, null, eq_comm]

theorem under_iff {α : Type} {x : Checked α} {a : α} : x.under name = .valid a ↔ x = .valid a := by
  constructor
  · exact under_valid
  · rintro rfl
    rfl

theorem optional_none {α : Type} {check : Check α} :
    Check.optional members name check = .valid none ↔
      ∀ value ∈ members.get? name, value = .null := by
  unfold Check.optional Check.defaulted
  cases members.get? name with
  | none => simp
  | some value => simp [under_iff, nullable_iff]

theorem optional_some {α : Type} {check : Check α} {a : α} :
    Check.optional members name check = .valid (some a) ↔
      ∃ value, members.get? name = some value ∧ value ≠ .null ∧ check value = .valid a := by
  unfold Check.optional Check.defaulted
  cases members.get? name with
  | none => simp
  | some value => simp [under_iff, nullable_iff]

/-! ## Documents -/

/-- Parameters are worth their document. -/
theorem ofParameters_document {document : Json} {parameters : Parameters}
    (pass : parameters.Pass document) (kind : BodyKind) :
    kind.ofParameters parameters = kind.check parameters.document := by
  cases pass with
  | plain => rfl
  | @checked origin model read =>
    cases model with
    | body other held =>
      by_cases same : other = kind
      · subst same
        rw [ofParameters_self]
        exact (body_again other (body_valid other document held (model_valid read))).symm
      · exact dif_neg same
    | _ => rfl

theorem required_address {parameters : Parameters} {name : String} {members : Members}
    (document : parameters.document = .obj members) {address : Ipv4} :
    Check.required members name Check.ipv4 = .valid address ↔
      parameters.Names name address.toText address.value := by
  unfold Parameters.Names
  rw [required_iff, document, Json.at?_name]
  simp only [ipv4_valid]

theorem optional_address {parameters : Parameters} {name : String} {members : Members}
    (document : parameters.document = .obj members) {given : Option Ipv4} :
    Check.optional members name Check.ipv4 = .valid given ↔
      match given with
      | some address => parameters.Names name address.toText address.value
      | none => ∀ value ∈ parameters.document.at? [name], value = .null := by
  cases given with
  | none => rw [optional_none, document, Json.at?_name]
  | some address =>
    rw [optional_some]
    dsimp only
    rw [← required_address document, required_iff]
    refine exists_congr fun value => and_congr_right' (and_iff_right_of_imp ?_)
    rintro passed rfl
    cases passed

theorem names_document {parameters : Parameters} {name text : String} {number : Nat}
    (h : parameters.Names name text number) : ∃ members, parameters.document = .obj members := by
  obtain ⟨value, found, -⟩ := h
  cases hd : parameters.document with
  | obj members => exact ⟨members, rfl⟩
  | _ =>
    rw [hd] at found
    cases found

/-- What passes for a firewall rule is a range whose ends are in order. -/
theorem firewallRule_valid {parameters : Parameters} {rule : FirewallRule} :
    FirewallRule.check parameters.document = .valid rule ↔
      parameters.Names "start_ip_address" rule.first.toText rule.first.value ∧
      parameters.Names "end_ip_address" rule.last.toText rule.last.value ∧
      rule.first.value ≤ rule.last.value := by
  constructor
  · intro passed
    obtain ⟨fields, ordered⟩ := keeping_valid passed
    obtain ⟨members, document, read⟩ := object_valid fields
    obtain ⟨withFirst, last, front, ends, rfl⟩ := seq_valid read
    obtain ⟨first, starts, rfl⟩ := map_valid front
    exact ⟨(required_address document).mp starts, (required_address document).mp ends,
      of_decide_eq_true ordered⟩
  · rintro ⟨first, last, ordered⟩
    obtain ⟨members, document⟩ := names_document first
    have starts := (required_address document).mpr first
    have ends := (required_address document).mpr last
    rw [document]
    exact keeping_passed (seq_passed (map_passed starts) ends rfl) (decide_eq_true ordered)

theorem updateFirewallRule_valid {parameters : Parameters} {members : Members}
    (document : parameters.document = .obj members) {rule : UpdateFirewallRule} :
    UpdateFirewallRule.check parameters.document = .valid rule ↔
      Check.optional members "start_ip_address" Check.ipv4 = .valid rule.first ∧
      Check.optional members "end_ip_address" Check.ipv4 = .valid rule.last := by
  rw [document]
  constructor
  · intro passed
    obtain ⟨withFirst, last, front, ends, rfl⟩ := seq_valid passed
    obtain ⟨first, starts, rfl⟩ := map_valid front
    exact ⟨starts, ends⟩
  · rintro ⟨starts, ends⟩
    exact seq_passed (map_passed starts) ends rfl

/-! ## Bodies -/

variable {document : Json} {parameters : Parameters}

theorem names_address {name text : String} {number : Nat}
    (h : parameters.Names name text number) :
    ∃ address : Ipv4, address.toText = text ∧ address.value = number := by
  obtain ⟨value, -, denotes⟩ := h
  exact Ipv4.quad_toText denotes.1

/-- Where a range is wanted, parameters are accepted exactly if they give one, and it is sent. -/
theorem range_body (pass : parameters.Pass document) (json : Json) :
    (BodyRule.required .firewallRule).body parameters = .ok json ↔ parameters.IsRange json := by
  rw [required_body]
  constructor
  · rintro ⟨rule, accepted, rfl⟩
    obtain ⟨-, made⟩ := validate_ok.mp accepted
    rw [ofParameters_document pass] at made
    obtain ⟨first, last, ordered⟩ := firewallRule_valid.mp made
    exact ⟨_, _, _, _, first, last, ordered, rfl⟩
  · rintro ⟨_, _, _, _, starts, ends, ordered, rfl⟩
    obtain ⟨first, rfl, rfl⟩ := names_address starts
    obtain ⟨last, rfl, rfl⟩ := names_address ends
    refine ⟨⟨first, last⟩, validate_ok.mpr ⟨?_, ?_⟩, rfl⟩
    · rintro rfl
      obtain ⟨members, missing⟩ := names_document starts
      cases missing
    · rw [ofParameters_document pass]
      exact firewallRule_valid.mpr ⟨starts, ends, ordered⟩

/-- What may be named is an address that may be given. -/
theorem mayName_iff {members : Members} (document : parameters.document = .obj members)
    {name : String} {text : Option String} :
    parameters.MayName name text ↔
      ∃ given : Option Ipv4, text = given.map Ipv4.toText ∧
        Check.optional members name Check.ipv4 = .valid given := by
  constructor
  · cases text with
    | none =>
      intro absent
      exact ⟨none, rfl, (optional_address document).mpr absent⟩
    | some text =>
      rintro ⟨number, named⟩
      obtain ⟨address, rfl, rfl⟩ := names_address named
      exact ⟨some address, rfl, (optional_address document).mpr named⟩
  · rintro ⟨given, rfl, passed⟩
    have named := (optional_address document).mp passed
    cases given with
    | none => exact named
    | some address => exact ⟨_, named⟩

theorem update_toBody (rule : UpdateFirewallRule) :
    Json.obj rule.toBody = .obj [("properties",
      .obj (((rule.first.map Ipv4.toText).map fun text => ("startIpAddress", Json.str text)).toList ++
        ((rule.last.map Ipv4.toText).map fun text => ("endIpAddress", Json.str text)).toList))] := by
  obtain ⟨first, last⟩ := rule
  cases first <;> cases last <;> rfl

theorem part_none {json : Json} :
    (Parameters.plain .null).IsPartOfRange json ↔ json = .obj [("properties", .obj [])] := by
  have nothing (name : String) (text : Option String) :
      (Parameters.plain .null).MayName name text ↔ text = none := by
    cases text with
    | none => simp [Parameters.MayName, Parameters.document, Json.at?]
    | some text => simp [Parameters.MayName, Parameters.Names, Parameters.document, Json.at?]
  unfold Parameters.IsPartOfRange
  simp [nothing]

/-- Where parts of a range are wanted, an object is accepted exactly if its ends are addresses or
left out, and those that are given are sent. No parameters are like an object with no members. -/
theorem part_body (pass : parameters.Pass document) (json : Json) :
    (BodyRule.optional .updateFirewallRule).body parameters = .ok json ↔
      (parameters.document = .null ∨ parameters.document.IsObject) ∧
        parameters.IsPartOfRange json := by
  by_cases given : parameters = .plain .null
  · subst given
    rw [part_none, and_iff_right (.inl rfl)]
    have empty : (BodyRule.optional .updateFirewallRule).body (.plain .null) =
        .ok (.obj [("properties", .obj [])]) := rfl
    rw [empty, Except.ok.injEq, eq_comm]
  · rw [optional_body given, required_body]
    constructor
    · rintro ⟨rule, accepted, rfl⟩
      obtain ⟨-, made⟩ := validate_ok.mp accepted
      rw [ofParameters_document pass] at made
      obtain ⟨members, document, -⟩ := object_valid made
      obtain ⟨starts, ends⟩ := (updateFirewallRule_valid document).mp made
      refine ⟨.inr ⟨members, document⟩, _, _, ?_, ?_, update_toBody rule⟩
      · exact (mayName_iff document).mpr ⟨rule.first, rfl, starts⟩
      · exact (mayName_iff document).mpr ⟨rule.last, rfl, ends⟩
    · rintro ⟨null | ⟨members, document⟩, _, _, lower, upper, rfl⟩
      · cases parameters with
        | plain value => exact absurd (congrArg Parameters.plain null) given
        | checked model => cases null
      · obtain ⟨first, rfl, starts⟩ := (mayName_iff document).mp lower
        obtain ⟨last, rfl, ends⟩ := (mayName_iff document).mp upper
        refine ⟨⟨first, last⟩, validate_ok.mpr ⟨given, ?_⟩, (update_toBody ⟨first, last⟩).symm⟩
        rw [ofParameters_document pass]
        exact (updateFirewallRule_valid document).mpr ⟨starts, ends⟩

end LakeAdmin
