import Mathlib.Data.List.DropRight
import LakeAdmin.Client.Basic
import LakeAdmin.Proofs.Settings.Loading

/-!
The normal form of base URLs: one slash at the end. It is the same however many slashes a text
ends in, and neither the settings nor a client change it again. The scheme is looked for before
the slashes are taken off, though, so a text of the scheme and slashes alone is accepted and
loses part of its scheme; every other text that is accepted keeps it.
-/

namespace LakeAdmin

open Schema

namespace Settings

def EndsInSlash (url : String) : Prop :=
  ∃ front : List Char, url.toList = front ++ ['/'] ∧ front.getLast? ≠ some '/'

/-- A text that starts with the scheme. -/
def IsSecure (url : String) : Prop := secureScheme.toList <+: url.toList

/-- The scheme with nothing but slashes behind it. -/
def IsBare (url : String) : Prop :=
  ∃ n : Nat, url.toList = secureScheme.toList ++ List.replicate n '/'

/-! ## The slash at the end -/

theorem toList_endInSlash (url : String) :
    (endInSlash url).toList = url.toList.rdropWhile (· = '/') ++ ['/'] := by
  simp [endInSlash, Text.dropTrailing, List.rdropWhile]

theorem endInSlash_ends (url : String) : EndsInSlash (endInSlash url) := by
  refine ⟨url.toList.rdropWhile (· = '/'), toList_endInSlash url, ?_⟩
  intro last
  have filled : url.toList.rdropWhile (· = '/') ≠ [] := by
    intro none
    simp [none] at last
  have other := List.rdropWhile_last_not _ _ filled
  rw [List.getLast?_eq_getLast_of_ne_nil filled] at last
  simp [Option.some.inj last] at other

/-- What ends in one slash is left as it is. -/
theorem endInSlash_self {url : String} (h : EndsInSlash url) : endInSlash url = url := by
  obtain ⟨front, whole, last⟩ := h
  have kept : front.rdropWhile (· = '/') = front := by
    rw [List.rdropWhile_eq_self_iff]
    intro filled slash
    apply last
    rw [List.getLast?_eq_getLast_of_ne_nil filled]
    simpa using slash
  apply String.toList_inj.mp
  rw [toList_endInSlash, whole, List.rdropWhile_concat_pos _ _ _ (by simp), kept]

theorem rdropWhile_replicate (l : List Char) (n : Nat) :
    (l ++ List.replicate n '/').rdropWhile (· = '/') = l.rdropWhile (· = '/') := by
  induction n with
  | zero => simp
  | succ n ih =>
    rw [List.replicate_succ', ← List.append_assoc, List.rdropWhile_concat_pos _ _ _ (by simp), ih]

/-- However many slashes follow, the normal form is the same. -/
theorem endInSlash_slashes (url : String) (n : Nat) :
    endInSlash (url ++ String.ofList (List.replicate n '/')) = endInSlash url := by
  apply String.toList_inj.mp
  simp only [toList_endInSlash, String.toList_append, String.toList_ofList, rdropWhile_replicate]

/-! ## The scheme at the start -/

theorem endInSlash_bare {url : String} (bare : IsBare url) : endInSlash url = "https:/" := by
  obtain ⟨n, whole⟩ := bare
  apply String.toList_inj.mp
  rw [toList_endInSlash, whole, rdropWhile_replicate]
  decide

/-- The scheme is kept if something other than slashes follows it. -/
theorem endInSlash_secure {url : String} (secure : IsSecure url) :
    IsSecure (endInSlash url) ↔ ¬IsBare url := by
  constructor
  · intro kept bare
    rw [endInSlash_bare bare] at kept
    revert kept
    unfold IsSecure
    decide
  · intro other
    obtain ⟨rest, whole⟩ := secure
    have named : ¬rest.rdropWhile (· = '/') = [] := by
      rw [List.rdropWhile_eq_nil_iff]
      intro slashes
      apply other
      refine ⟨rest.length, ?_⟩
      rw [← whole, List.append_cancel_left_eq, List.eq_replicate_iff]
      exact ⟨rfl, by simpa using slashes⟩
    have apart : url.toList.rdropWhile (· = '/') =
        secureScheme.toList ++ rest.rdropWhile (· = '/') := by
      rw [← whole]
      unfold List.rdropWhile at named ⊢
      rw [List.reverse_append, List.dropWhile_append, if_neg (by simpa using named)]
      simp
    unfold IsSecure
    rw [toList_endInSlash, apart, List.append_assoc]
    exact List.prefix_append _ _

/-- A text is accepted if it starts with the scheme, and is then brought into its normal form. -/
theorem baseUrlCheck_valid {text stored : String} :
    baseUrlCheck (.str text) = .valid stored ↔ IsSecure text ∧ stored = endInSlash text := by
  unfold baseUrlCheck Check.keeping Check.text Checked.andThen IsSecure
  rw [← List.isPrefixOf_iff_prefix]
  by_cases secure : secureScheme.toList.isPrefixOf text.toList = true
  · simp [secure, Checked.map, eq_comm]
  · simp [secure, Checked.map, Checked.fail]

/-! ## What the settings hold -/

/-- A text of one's own is the setting if it is absent, empty or the same. -/
theorem orSetting_same {value : Option String} {setting : String}
    (h : value ∈ [none, some "", some setting]) : Client.orSetting value setting = setting := by
  simp only [List.mem_cons, List.not_mem_nil, or_false] at h
  rcases h with rfl | rfl | rfl
  · rfl
  · rfl
  · cases empty : decide (setting = "") <;> simp [Client.orSetting, Option.filter, empty]

/-- The base URL that settings take from a text ends in one slash, however many the text ends in,
and a client that is given it or no other has it as it is. It starts with the scheme, and is
accepted and left as it is once more, if and only if the text has something other than slashes
behind the scheme. -/
theorem baseUrl_settles {given : Members} {environment : List (String × String)}
    {file name text : String} {settings : Settings}
    (loaded : load given environment file = .valid settings)
    (found : (Sources.mk given environment (Dotenv.read environment file)).find?
      "arm_base_url" = some (name, .str text)) :
    EndsInSlash settings.baseUrl ∧
      (∀ n : Nat, baseUrlCheck (.str (text ++ String.ofList (List.replicate n '/'))) =
        .valid settings.baseUrl) ∧
      (∀ options : ClientOptions, options.baseUrl ∈ [none, some "", some settings.baseUrl] →
        (Client.ofOptions settings options).baseUrl = settings.baseUrl) ∧
      (IsSecure settings.baseUrl ↔ ¬IsBare text) ∧
      (baseUrlCheck (.str settings.baseUrl) = .valid settings.baseUrl ↔ ¬IsBare text) := by
  have placed := (ofSources_gives loaded).1
  simp only [Sources.Gives, found] at placed
  obtain ⟨secure, normal⟩ := baseUrlCheck_valid.mp placed
  have ends : EndsInSlash settings.baseUrl := by
    rw [normal]
    exact endInSlash_ends text
  have kept : IsSecure settings.baseUrl ↔ ¬IsBare text := by
    rw [normal]
    exact endInSlash_secure secure
  refine ⟨ends, ?_, ?_, kept, ?_⟩
  · intro n
    have more : IsSecure (text ++ String.ofList (List.replicate n '/')) := by
      unfold IsSecure
      rw [String.toList_append]
      exact secure.trans (List.prefix_append _ _)
    exact baseUrlCheck_valid.mpr ⟨more, by rw [endInSlash_slashes, normal]⟩
  · intro options chosen
    show endInSlash (Client.orSetting options.baseUrl settings.baseUrl) = settings.baseUrl
    rw [orSetting_same chosen, endInSlash_self ends]
  · rw [baseUrlCheck_valid, kept]
    simp [endInSlash_self ends]

/-- A text of the scheme and a fourth slash, which loses part of its scheme, beside one that
keeps it. -/
theorem baseUrl_settles_bare : ∃ bare named : Settings,
    load [] [("ARM_BASE_URL", "https:///")] "" = .valid bare ∧
      bare.baseUrl = "https:/" ∧ ¬IsSecure bare.baseUrl ∧
      ¬baseUrlCheck (.str bare.baseUrl) = .valid bare.baseUrl ∧
      load [("arm_base_url", .str "https://arm.test//")] [] "" = .valid named ∧
      EndsInSlash named.baseUrl ∧ IsSecure named.baseUrl ∧
      baseUrlCheck (.str named.baseUrl) = .valid named.baseUrl := by
  have field : "arm_base_url".toUpper = "ARM_BASE_URL" := by decide +kernel
  have held : lastOf [("ARM_BASE_URL", "https:///")] "arm_base_url" = some "https:///" := by
    decide +kernel
  have first : (load [] [("ARM_BASE_URL", "https:///")] "").toOption.map (·.baseUrl) =
      some "https:/" := by decide +kernel
  have second : (load [("arm_base_url", .str "https://arm.test//")] [] "").toOption.isSome := by
    decide +kernel
  obtain ⟨bare, loaded, short⟩ := Option.map_eq_some_iff.mp first
  obtain ⟨named, whole⟩ := Option.isSome_iff_exists.mp second
  have loaded := valid_of_toOption loaded
  have whole := valid_of_toOption whole
  have outside : (Sources.mk [] [("ARM_BASE_URL", "https:///")]
      (Dotenv.read [("ARM_BASE_URL", "https:///")] "")).find? "arm_base_url" =
        some ("ARM_BASE_URL", .str "https:///") := by
    simp [Sources.find?, field, held, Members.get?]
  have given : (Sources.mk [("arm_base_url", .str "https://arm.test//")] []
      (Dotenv.read [] "")).find? "arm_base_url" =
        some ("arm_base_url", .str "https://arm.test//") := by
    simp [Sources.find?, field, Members.get?]
  obtain ⟨-, -, -, lost, refused⟩ := baseUrl_settles loaded outside
  obtain ⟨ends, -, -, kept, again⟩ := baseUrl_settles whole given
  have slashes : IsBare "https:///" := ⟨1, by decide⟩
  have word : ¬IsBare "https://arm.test//" := by
    rintro ⟨n, text⟩
    have letter : 'a' ∈ secureScheme.toList ++ List.replicate n '/' := by
      rw [← text]
      decide
    simp [secureScheme] at letter
  exact ⟨bare, named, loaded, short, fun secure => lost.mp secure slashes,
    fun accepted => refused.mp accepted slashes, whole, ends, kept.mpr word, again.mpr word⟩

end Settings

end LakeAdmin
