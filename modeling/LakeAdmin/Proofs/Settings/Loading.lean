import LakeAdmin.Proofs.Schema.Checked
import LakeAdmin.Settings.Basic

/-!
Settings that are accepted. Where a source gives a field, the field is what its check makes of
the value; where none does, it is the default.
-/

namespace LakeAdmin.Settings

open Schema

/-- A field as sources give it: what has passed its check, or the default. -/
def Sources.Gives {α : Type} (sources : Sources) (field : String) (check : Check α)
    (default a : α) : Prop :=
  match sources.find? field with
  | some (_, value) => check value = .valid a
  | none => a = default

theorem read_gives {α : Type} {sources : Sources} {field : String} {check : Check α}
    {default a : α} (h : sources.read field default check = .valid a) :
    sources.Gives field check default a := by
  unfold Sources.read at h
  unfold Sources.Gives
  cases found : sources.find? field with
  | none =>
    rw [found] at h
    cases h
    rfl
  | some pair =>
    rw [found] at h
    exact under_valid h

theorem valid_of_toOption {α : Type} {x : Checked α} {a : α} (h : x.toOption = some a) :
    x = .valid a := by
  cases x with
  | valid b => simpa [Checked.toOption] using h
  | invalid issues => cases h

/-- The base URL and the interval of polls are as the sources give them. -/
theorem ofSources_gives {sources : Sources} {settings : Settings}
    (h : ofSources sources = .valid settings) :
    sources.Gives "arm_base_url" baseUrlCheck standard.baseUrl settings.baseUrl ∧
      sources.Gives "lro_poll_interval" secondsCheck standard.pollInterval
        settings.pollInterval := by
  unfold ofSources at h
  obtain ⟨_, _, h1, -, rfl⟩ := seq_valid h
  obtain ⟨_, _, h2, polled, rfl⟩ := seq_valid h1
  obtain ⟨_, _, h3, -, rfl⟩ := seq_valid h2
  obtain ⟨_, _, h4, -, rfl⟩ := seq_valid h3
  obtain ⟨_, _, h5, -, rfl⟩ := seq_valid h4
  obtain ⟨_, _, h6, -, rfl⟩ := seq_valid h5
  obtain ⟨_, _, h7, -, rfl⟩ := seq_valid h6
  obtain ⟨_, _, h8, -, rfl⟩ := seq_valid h7
  obtain ⟨_, _, h9, -, rfl⟩ := seq_valid h8
  obtain ⟨_, _, h10, -, rfl⟩ := seq_valid h9
  obtain ⟨_, _, h11, placed, rfl⟩ := seq_valid h10
  obtain ⟨_, -, rfl⟩ := map_valid h11
  exact ⟨read_gives placed, read_gives polled⟩

end LakeAdmin.Settings
