import GeoRouting.Dict.Lookup
import GeoRouting.Provider
import Mathlib.Data.List.Sort

/-!
# Which credentials are accepted

Positional values fit a form that has as many parameters. Named values fit a form whose parameters
are their names in some order, so a form that repeats a parameter fits no names at all. Credentials
with values are accepted when they fit some form: the order of the forms does not matter, and more
forms accept more. Where nothing is supplied it depends on whether there are forms.
-/

namespace GeoRouting

/-- Dictionaries with the same keys list them alike. -/
theorem Dict.keys_eq_of_mem_iff {α β : Type} {d : Dict α} {e : Dict β}
    (h : ∀ k, k ∈ d.keys ↔ k ∈ e.keys) : d.keys = e.keys :=
  d.keys_ascending.eq_of_mem_iff e.keys_ascending h

/-! ## Forms -/

namespace CredentialForm

/-- Whether credentials have a value for each parameter of a form and no other values. -/
def Fits (f : CredentialForm) : Credentials → Prop
  | .anonymous => False
  | .list values => f.parameters.length = values.length
  | .map values => f.parameters.Perm values.keys

instance (f : CredentialForm) (c : Credentials) : Decidable (f.Fits c) :=
  match c with
  | .anonymous => inferInstanceAs (Decidable False)
  | .list _ => inferInstanceAs (Decidable (_ = _))
  | .map _ => inferInstanceAs (Decidable (List.Perm _ _))

theorem mem_parameterSet {f : CredentialForm} {p : String} :
    p ∈ f.parameterSet ↔ p ∈ f.parameters := by
  rw [parameterSet, Dict.mem_keys_ofList, List.map_map]
  exact iff_of_eq (congrArg (p ∈ ·) (List.map_id _))

/-- There are as many names as parameters and every name is a parameter, so none is repeated. -/
theorem accepts_map_iff {f : CredentialForm} {values : Dict String} :
    f.accepts (.map values) = true ↔ f.parameters.Perm values.keys := by
  have hsize : values.size = values.keys.length := (List.length_map _).symm
  rw [accepts, Bool.and_eq_true, beq_iff_eq, beq_iff_eq, hsize]
  constructor
  · rintro ⟨hlength, hset⟩
    have hnames : values.keys ⊆ f.parameters := by
      intro p hp
      rw [← hset] at hp
      exact mem_parameterSet.mp hp
    have hsubperm := List.subperm_of_subset values.keys_nodup hnames
    exact (hsubperm.perm_of_length_le hlength.ge).symm
  · intro hperm
    refine ⟨hperm.length_eq.symm, Dict.keys_eq_of_mem_iff fun p => ?_⟩
    exact mem_parameterSet.trans hperm.mem_iff

theorem accepts_iff_fits {f : CredentialForm} {c : Credentials} (h : c.isEmpty = false) :
    f.accepts c = true ↔ f.Fits c := by
  cases c with
  | anonymous => cases h
  | list values =>
    rw [accepts, beq_iff_eq]
    exact eq_comm
  | map values => exact accepts_map_iff

theorem accepts_map_of_repeated {f : CredentialForm} (h : ¬ f.parameters.Nodup)
    (values : Dict String) : f.accepts (.map values) = false := by
  rw [Bool.eq_false_iff, ne_eq, accepts_map_iff]
  exact fun hperm => h (hperm.nodup_iff.mpr values.keys_nodup)

end CredentialForm

/-! ## Checks -/

namespace Credentials

/-- The ways to supply nothing. -/
def nothing : List (Option Credentials) :=
  [none, some .anonymous, some (.list []), some (.map .empty)]

theorem isEmpty_iff_mem_nothing {c : Credentials} : c.isEmpty = true ↔ some c ∈ nothing := by
  rw [isEmpty, beq_iff_eq]
  cases c with
  | anonymous => decide
  | list values => simp [nothing, size]
  | map values =>
    have hempty : values = .empty ↔ values.entries = [] := by
      constructor
      · rintro rfl
        rfl
      · exact fun h => Dict.eq_of_entries_eq h
    simp [nothing, size, Dict.size, hempty]

theorem isEmpty_of_notMem_nothing {c : Credentials} (h : some c ∉ nothing) : c.isEmpty = false :=
  Bool.eq_false_iff.mpr (mt isEmpty_iff_mem_nothing.mp h)

theorem check_of_nothing {supplied : Option Credentials} (h : supplied ∈ nothing)
    (catalog : CredentialCatalog) :
    check supplied (some catalog) =
      if catalog.forms = [] then .ok .anonymous
      else .error (.notSupplied catalog.requirement) := by
  have hnone : (supplied.filter fun c => !c.isEmpty) = none := by
    cases supplied with
    | none => rfl
    | some c => simp [isEmpty_iff_mem_nothing.mpr h]
  rw [check, hnone]
  simp only [List.isEmpty_iff]

theorem check_of_values {c : Credentials} (h : some c ∉ nothing) (catalog : CredentialCatalog) :
    check (some c) (some catalog) =
      if ∃ f ∈ catalog.forms, f.Fits c then .ok c
      else .error (.incorrect catalog.requirement) := by
  have hvalues := isEmpty_of_notMem_nothing h
  have hsome : ((some c).filter fun c => !c.isEmpty) = some c := by simp [hvalues]
  rw [check, hsome]
  simp only [List.any_eq_true, CredentialForm.accepts_iff_fits hvalues]

/-- What credentials come to: what is to be used, or the kind of rejection. -/
def verdict (supplied : Option Credentials) (catalog : CredentialCatalog) :
    Except String Credentials :=
  (check supplied (some catalog)).mapError CredentialRejection.code

theorem verdict_perm {forms others : List CredentialForm} (h : forms.Perm others)
    (supplied : Option Credentials) (provider : String) :
    verdict supplied ⟨provider, forms⟩ = verdict supplied ⟨provider, others⟩ := by
  unfold verdict check
  cases supplied.filter fun c => !c.isEmpty with
  | none =>
    simp only [h.isEmpty_eq]
    split <;> rfl
  | some c =>
    simp only [h.any_eq]
    split <;> rfl

theorem check_of_more_forms {c : Credentials} (h : some c ∉ nothing) {provider : String}
    {forms others : List CredentialForm} (hforms : forms ⊆ others)
    (hok : (check (some c) (some ⟨provider, forms⟩)).isOk = true) :
    check (some c) (some ⟨provider, others⟩) = .ok c := by
  rw [check_of_values h] at hok ⊢
  split at hok
  · rename_i hfits
    obtain ⟨f, hf, hfit⟩ := hfits
    exact if_pos ⟨f, hforms hf, hfit⟩
  · cases hok

/-- A provider is opened on credentials that pass its check, and the rejection is reported. -/
theorem answer_connect {σ : Type} (kind : ProviderKind) (supplied : Option Credentials) (s : σ) :
    ((kind.connect supplied).run.run s).answer =
      match check supplied (some (ProviderInfo.of kind).catalog) with
      | .ok _ => .ok ()
      | .error r => .error (.invalidArgument kind.name "credentials" r.message) := by
  rw [ProviderKind.connect]
  cases check supplied (some (ProviderInfo.of kind).catalog) with
  | ok c => rfl
  | error r => cases kind <;> rfl

/-- Credentials with values are accepted as they are when they fit a form, and nothing at all is
accepted where there is no form; everything else is rejected for the reason given here. -/
theorem check_accepts_what_fits :
    (∀ supplied, check supplied none = .error .noProvider) ∧
      (∀ catalog, ∀ supplied ∈ nothing, check supplied (some catalog) =
        if catalog.forms = [] then .ok .anonymous
        else .error (.notSupplied catalog.requirement)) ∧
      (∀ catalog c, some c ∉ nothing → check (some c) (some catalog) =
        if ∃ f ∈ catalog.forms, f.Fits c then .ok c
        else .error (.incorrect catalog.requirement)) ∧
      (∀ f : CredentialForm, ¬ f.parameters.Nodup → ∀ values, f.accepts (.map values) = false) ∧
      (∀ supplied provider (forms others : List CredentialForm), forms.Perm others →
        verdict supplied ⟨provider, forms⟩ = verdict supplied ⟨provider, others⟩) ∧
      (∀ c provider forms others, some c ∉ nothing → forms ⊆ others →
        (check (some c) (some ⟨provider, forms⟩)).isOk = true →
          check (some c) (some ⟨provider, others⟩) = .ok c) ∧
      ∀ (σ : Type) (kind : ProviderKind) (supplied : Option Credentials) (s : σ),
        ((kind.connect supplied).run.run s).answer =
          match check supplied (some (ProviderInfo.of kind).catalog) with
          | .ok _ => .ok ()
          | .error r => .error (.invalidArgument kind.name "credentials" r.message) := by
  refine ⟨fun _ => rfl, ?_, ?_, ?_, ?_, ?_, ?_⟩
  · exact fun catalog supplied h => check_of_nothing h catalog
  · exact fun catalog c h => check_of_values h catalog
  · exact fun f h values => CredentialForm.accepts_map_of_repeated h values
  · exact fun supplied provider forms others h => verdict_perm h supplied provider
  · exact fun c provider forms others h hforms hok => check_of_more_forms h hforms hok
  · exact fun σ kind supplied s => answer_connect kind supplied s

/-- A form that repeats its parameter, and one that does not. -/
def keyForms : List CredentialForm := [⟨"twice", ["key", "key"]⟩, ⟨"login", ["user", "key"]⟩]

theorem check_accepts_what_fits_of_keyForms :
    let login : Credentials := .map ((Dict.single "key" "k").insert "user" "u")
    let single : Credentials := .map (.single "key" "k")
    some login ∉ nothing ∧ some single ∉ nothing ∧
      check (some login) (some ⟨"dns", keyForms⟩) = .ok login ∧
      check (some login) (some ⟨"dns", ⟨"token", ["token"]⟩ :: keyForms⟩) = .ok login ∧
      verdict (some login) ⟨"dns", keyForms.reverse⟩ = .ok login ∧
      check (some single) (some ⟨"dns", keyForms⟩) =
        .error (.incorrect (CredentialCatalog.requirement ⟨"dns", keyForms⟩)) ∧
      ((ProviderKind.dynect.connect (some single)).run.run ()).answer =
        .error (.invalidArgument "dynect" "credentials"
          "incorrect credentials supplied. password requires customer, username, password") := by
  intro login single
  obtain ⟨-, -, hvalues, -, hperm, hmore, hconnect⟩ := check_accepts_what_fits
  have hlogin : some login ∉ nothing := by decide +kernel
  have hsingle : some single ∉ nothing := by decide +kernel
  have hok : check (some login) (some ⟨"dns", keyForms⟩) = .ok login := by
    rw [hvalues _ _ hlogin]
    decide +kernel
  refine ⟨hlogin, hsingle, hok, ?_, ?_, ?_, ?_⟩
  · exact hmore _ _ _ _ hlogin (List.subset_cons_self _ _) (congrArg Except.isOk hok)
  · rw [← hperm _ _ _ _ (List.reverse_perm keyForms).symm, verdict, hok]
    rfl
  · rw [hvalues _ _ hsingle]
    decide +kernel
  · rw [hconnect, hvalues _ _ hsingle]
    decide +kernel

end Credentials

end GeoRouting
