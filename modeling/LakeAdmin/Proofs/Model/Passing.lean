import LakeAdmin.Proofs.Model.Validity
import LakeAdmin.Proofs.Schema.Refusal
import LakeAdmin.Service.Operation

/-!
Parameters in the forms in which they are passed: as a document, as a value of the kind that is
wanted, or as a value of another kind. Whatever is refused is refused with a reason, and whatever
is accepted is worth the value that it makes up.
-/

namespace LakeAdmin

open Schema

/-! ## Refusals -/

theorem reasons_count : Reasons countCheck := reasons_atLeast 1 reasons_integer

theorem reasons_retention : Reasons retentionCheck := reasons_atMost 180 reasons_count

theorem reasons_tags : Reasons tagsCheck := reasons_dictionary reasons_text

theorem storeRef_reasons : Reasons StoreRef.check := by
  refine reasons_object fun members => ?_
  refine reasoned_seq (reasoned_map (reasoned_required reasons_filledText)) ?_
  exact reasoned_optional reasons_text

theorem storageRef_reasons : Reasons StorageRef.check := by
  refine reasons_object fun members => ?_
  refine reasoned_seq (reasoned_seq (reasoned_map ?_) ?_) (reasoned_optional reasons_text)
  · exact reasoned_required reasons_filledText
  · exact reasoned_required reasons_filledText

theorem createAccount_reasons : Reasons CreateAccount.check := by
  refine reasons_keeping _ _ (reasons_object fun members => ?_)
  refine reasoned_seq (reasoned_seq (reasoned_seq (reasoned_seq (reasoned_seq (reasoned_seq
    (reasoned_seq (reasoned_map ?location) ?defaultStore) ?stores) ?storage) ?tags)
    ?parallelism) ?jobs) ?retention
  case location => exact reasoned_required reasons_filledText
  case defaultStore => exact reasoned_required reasons_filledText
  case stores => exact reasoned_required (reasons_filledList storeRef_reasons)
  case storage => exact reasoned_defaulted [] (reasons_list storageRef_reasons)
  case tags => exact reasoned_optional reasons_tags
  case parallelism => exact reasoned_optional reasons_count
  case jobs => exact reasoned_optional reasons_count
  case retention => exact reasoned_optional reasons_retention

/-- The check of a kind refuses nothing without a reason. -/
theorem body_reasons (kind : BodyKind) : Reasons kind.check := by
  cases kind with
  | storeRef => exact storeRef_reasons
  | storageRef => exact storageRef_reasons
  | createAccount => exact createAccount_reasons
  | updateAccount =>
    refine reasons_object fun members => ?_
    refine reasoned_seq (reasoned_seq (reasoned_seq (reasoned_map ?tags) ?parallelism) ?jobs)
      ?retention
    case tags => exact reasoned_optional reasons_tags
    case parallelism => exact reasoned_optional reasons_count
    case jobs => exact reasoned_optional reasons_count
    case retention => exact reasoned_optional reasons_retention
  | addStorage =>
    refine reasons_object fun members => ?_
    refine reasoned_seq (reasoned_map (reasoned_required reasons_filledText)) ?_
    exact reasoned_optional reasons_text
  | updateStorage =>
    refine reasons_object fun members => ?_
    refine reasoned_seq (reasoned_map (reasoned_optional reasons_filledText)) ?_
    exact reasoned_optional reasons_text
  | addStore =>
    exact reasons_object fun members => reasoned_map (reasoned_optional reasons_text)
  | firewallRule =>
    refine reasons_keeping _ _ (reasons_object fun members => ?_)
    exact reasoned_seq (reasoned_map (reasoned_required reasons_ipv4))
      (reasoned_required reasons_ipv4)
  | updateFirewallRule =>
    refine reasons_object fun members => ?_
    exact reasoned_seq (reasoned_map (reasoned_optional reasons_ipv4))
      (reasoned_optional reasons_ipv4)
  | nameLookup =>
    refine reasons_object fun members => ?_
    refine reasoned_seq (reasoned_map (reasoned_required reasons_filledText)) ?_
    exact reasoned_defaulted _ reasons_text

/-! ## Ways of passing parameters -/

/-- What a document is passed as: itself, or a value of some kind that was read of it. -/
inductive Parameters.Pass (document : Json) : Parameters → Prop
  | plain : Parameters.Pass document (.plain document)
  | checked {kind : ModelKind} {model : Model} (read : kind.check document = .valid model) :
      Parameters.Pass document (.checked model)

theorem model_valid {origin : ModelKind} {document : Json} {kind : BodyKind} {value : kind.Value}
    (read : origin.check document = .valid (.body kind value)) :
    kind.check document = .valid value := by
  cases origin with
  | body other =>
    obtain ⟨found, passed, same⟩ := map_valid (f := Model.body other) read
    cases same
    exact passed
  | _ =>
    obtain ⟨found, -, same⟩ := map_valid read
    cases same

theorem ofParameters_self (kind : BodyKind) (value : kind.Value) :
    kind.ofParameters (.checked (.body kind value)) = .valid value := dif_pos rfl

/-- Parameters that make up a value of a kind make up one that keeps the rules of the kind. -/
theorem ofParameters_valid {document : Json} {parameters : Parameters}
    (pass : parameters.Pass document) {kind : BodyKind} {value : kind.Value}
    (made : kind.ofParameters parameters = .valid value) : kind.IsValid value := by
  cases pass with
  | plain => exact body_valid kind document value made
  | @checked origin model read =>
    cases model with
    | body other held =>
      by_cases same : other = kind
      · subst same
        cases (ofParameters_self other held).symm.trans made
        exact body_valid other document held (model_valid read)
      · have dumped : kind.ofParameters (.checked (.body other held)) =
            kind.check (.obj (other.toMembers held)) := dif_neg same
        exact body_valid kind _ value (dumped.symm.trans made)
    | _ => exact body_valid kind _ value made

/-- Parameters that make up no value are refused with a reason. -/
theorem ofParameters_reasons (kind : BodyKind) (parameters : Parameters) :
    (kind.ofParameters parameters).Reasoned := by
  cases parameters with
  | plain document => exact body_reasons kind document
  | checked model =>
    cases model with
    | body other held =>
      unfold BodyKind.ofParameters
      dsimp only
      split
      · exact reasoned_valid _
      · exact body_reasons kind _
    | _ => exact body_reasons kind _

theorem validate_ok {kind : BodyKind} {name : String} {parameters : Parameters}
    {value : kind.Value} :
    kind.validate name parameters = .ok value ↔
      parameters ≠ .plain .null ∧ kind.ofParameters parameters = .valid value := by
  unfold BodyKind.validate
  split
  · simp
  · rename_i given
    have filled : parameters ≠ .plain .null := given
    cases kind.ofParameters parameters <;> simp [filled]

theorem required_body {kind : BodyKind} {parameters : Parameters} {json : Json} :
    (BodyRule.required kind).body parameters = .ok json ↔
      ∃ value, kind.validate parametersName parameters = .ok value ∧
        json = .obj (kind.toBody value) := by
  unfold BodyRule.body
  dsimp only
  cases kind.validate parametersName parameters with
  | error failure => simp [bind, Except.bind]
  | ok value => simp [bind, Except.bind, pure, Except.pure, eq_comm]

/-- Rules that allow for no parameters part only where there are none. -/
theorem optional_body {kind : BodyKind} {parameters : Parameters}
    (given : parameters ≠ .plain .null) :
    (BodyRule.optional kind).body parameters = (BodyRule.required kind).body parameters := by
  cases parameters with
  | checked model => rfl
  | plain document =>
    cases document with
    | null => exact absurd rfl given
    | _ => rfl

/-- What is sent for parameters that are accepted, whether they may be left out or not. -/
theorem body_validated {kind : BodyKind} {parameters : Parameters} {value : kind.Value}
    (h : kind.validate parametersName parameters = .ok value) :
    ∀ rule ∈ [BodyRule.required kind, .optional kind],
      rule.body parameters = .ok (.obj (kind.toBody value)) := by
  have sent : (BodyRule.required kind).body parameters = .ok (.obj (kind.toBody value)) :=
    required_body.mpr ⟨value, h, rfl⟩
  simp only [List.forall_mem_cons]
  refine ⟨sent, ?_, nofun⟩
  rw [optional_body (validate_ok.mp h).1]
  exact sent

/-- Parameters that are accepted are worth the value that they make up: the value itself and the
document of all its members, with null for what was not given, are accepted as the same value,
under any name, and the same body is sent for them. -/
theorem validate_again (kind : BodyKind) {name : String} {document : Json} {value : kind.Value}
    (accepted : kind.validate name (.plain document) = .ok value) :
    ∀ parameters ∈ [Parameters.plain document, .checked (.body kind value),
      .plain (.obj (kind.toMembers value))],
      (∀ name, kind.validate name parameters = .ok value) ∧
        ∀ rule ∈ [BodyRule.required kind, .optional kind],
          rule.body parameters = .ok (.obj (kind.toBody value)) := by
  obtain ⟨filled, passed⟩ := validate_ok.mp accepted
  have itself := ofParameters_self kind value
  have written : kind.ofParameters (.plain (.obj (kind.toMembers value))) = .valid value :=
    body_again kind (body_valid kind document value passed)
  have each : ∀ parameters ∈ [Parameters.plain document, .checked (.body kind value),
      .plain (.obj (kind.toMembers value))],
      ∀ name, kind.validate name parameters = .ok value := by
    simp only [List.forall_mem_cons]
    exact ⟨fun _ => validate_ok.mpr ⟨filled, passed⟩, fun _ => validate_ok.mpr ⟨by simp, itself⟩,
      fun _ => validate_ok.mpr ⟨by simp, written⟩, List.forall_mem_nil _⟩
  exact fun parameters hp => ⟨each parameters hp, body_validated (each parameters hp _)⟩

/-- The numbers of an account may come as a truth value, a text and a double. -/
theorem validate_again_account :
    let document : Json := .obj [
      ("location", .str "l"), ("default_data_lake_store_account", .str "s"),
      ("data_lake_store_accounts", .arr [.obj [("name", .str "s")]]), ("tags", .obj []),
      ("max_degree_of_parallelism", .bool true), ("max_job_count", .str " +0_7.0"),
      ("query_store_retention", .float (.ofInt 180))]
    let account : CreateAccount := ⟨"l", "s", [⟨"s", none⟩], [], some [], some 1, some 7, some 180⟩
    BodyKind.createAccount.validate parametersName (.plain document) = .ok account ∧
      ∀ parameters ∈ [Parameters.plain document, .checked (.body .createAccount account),
        .plain (.obj account.toMembers)],
        (∀ name, BodyKind.createAccount.validate name parameters = .ok account) ∧
          ∀ rule ∈ [BodyRule.required .createAccount, .optional .createAccount],
            rule.body parameters = .ok (.obj account.toBody) := by
  intro document account
  have filled : Parameters.plain document ≠ .plain .null := by simp [document]
  have passed : CreateAccount.check document = .valid account := by decide +kernel
  have accepted : BodyKind.createAccount.validate parametersName (.plain document) =
      .ok account := validate_ok.mpr ⟨filled, passed⟩
  exact ⟨accepted, validate_again .createAccount accepted⟩

end LakeAdmin
