import GeoRouting.Proofs.Credentials.Acceptance

/-!
# What shows of credentials

Credentials of one kind are alike when they have as many positional values, or values of the same
names; their values do not matter. Alike credentials cannot be told apart, neither by their
summaries nor by what is answered or logged when a provider checks them or is opened on them. Only
the credentials that a check accepts are given back with their values.
-/

namespace GeoRouting.Credentials

/-- Credentials that differ in nothing but their values. -/
inductive Alike : Credentials → Credentials → Prop where
  | anonymous : Alike .anonymous .anonymous
  | list {values others : List String} (length : values.length = others.length) :
      Alike (.list values) (.list others)
  | map {values others : Dict String} (names : ∀ key, key ∈ values.keys ↔ key ∈ others.keys) :
      Alike (.map values) (.map others)

variable {c d : Credentials}

theorem Alike.summary_eq (h : c.Alike d) : c.summary = d.summary := by
  cases h with
  | anonymous => rfl
  | list length => rw [summary, summary, length]
  | map names => rw [summary, summary, Dict.keys_eq_of_mem_iff names]

theorem Alike.size_eq (h : c.Alike d) : c.size = d.size := by
  cases h with
  | anonymous => rfl
  | list length => exact length
  | map names =>
    have hlength := congrArg List.length (Dict.keys_eq_of_mem_iff names)
    rwa [Dict.keys, Dict.keys, List.length_map, List.length_map] at hlength

theorem Alike.mem_nothing_iff (h : c.Alike d) : some c ∈ nothing ↔ some d ∈ nothing := by
  rw [← isEmpty_iff_mem_nothing, ← isEmpty_iff_mem_nothing, isEmpty, isEmpty, h.size_eq]

theorem Alike.fits_iff (h : c.Alike d) (f : CredentialForm) : f.Fits c ↔ f.Fits d := by
  cases h with
  | anonymous => exact Iff.rfl
  | list length => rw [CredentialForm.Fits, CredentialForm.Fits, length]
  | map names => rw [CredentialForm.Fits, CredentialForm.Fits, Dict.keys_eq_of_mem_iff names]

/-- The credentials that are used when these are accepted. -/
def used (c : Credentials) : Credentials := if c.isEmpty then .anonymous else c

theorem used_of_mem_nothing (h : some c ∈ nothing) : c.used = .anonymous :=
  if_pos (isEmpty_iff_mem_nothing.mpr h)

theorem used_of_notMem_nothing (h : some c ∉ nothing) : c.used = c := by
  rw [used, isEmpty_of_notMem_nothing h]
  rfl

/-- Nothing but the number or the names of the values decides, and a rejection tells what the
provider requires and no more. -/
theorem Alike.check (h : c.Alike d) (catalog : Option CredentialCatalog) :
    (check (some c) catalog = .ok c.used ∧ check (some d) catalog = .ok d.used) ∨
      ∃ r, check (some c) catalog = .error r ∧ check (some d) catalog = .error r := by
  rcases catalog with _ | catalog
  · exact .inr ⟨.noProvider, rfl, rfl⟩
  by_cases hc : some c ∈ nothing
  · have hd := h.mem_nothing_iff.mp hc
    rw [check_of_nothing hc, check_of_nothing hd, used_of_mem_nothing hc, used_of_mem_nothing hd]
    by_cases hforms : catalog.forms = []
    · exact .inl ⟨if_pos hforms, if_pos hforms⟩
    · exact .inr ⟨_, if_neg hforms, if_neg hforms⟩
  · have hd := mt h.mem_nothing_iff.mpr hc
    rw [check_of_values hc, check_of_values hd, used_of_notMem_nothing hc,
      used_of_notMem_nothing hd]
    simp only [h.fits_iff]
    by_cases hfits : ∃ f ∈ catalog.forms, f.Fits d
    · exact .inl ⟨if_pos hfits, if_pos hfits⟩
    · exact .inr ⟨_, if_neg hfits, if_neg hfits⟩

/-- Opening a provider does the same with both, and so leaves the same log. -/
theorem Alike.connect_eq {σ : Type} (h : c.Alike d) (kind : ProviderKind) :
    (kind.connect (some c) : Query σ Unit) = kind.connect (some d) := by
  rw [ProviderKind.connect, ProviderKind.connect]
  obtain ⟨hc, hd⟩ | ⟨r, hc, hd⟩ := h.check (some (ProviderInfo.of kind).catalog)
  · rw [hc, hd]
  · rw [hc, hd]

/-- Alike credentials cannot be told apart, except that accepted ones are used with their own
values. -/
theorem indistinguishable_of_alike (h : c.Alike d) :
    c.summary = d.summary ∧
      (∀ catalog : Option CredentialCatalog,
        (check (some c) catalog = .ok c.used ∧ check (some d) catalog = .ok d.used) ∨
          ∃ r, check (some c) catalog = .error r ∧ check (some d) catalog = .error r) ∧
      ∀ (σ : Type) (kind : ProviderKind) (s : σ),
        (kind.connect (some c)).run.run s = (kind.connect (some d)).run.run s := by
  refine ⟨h.summary_eq, h.check, ?_⟩
  intro σ kind s
  rw [h.connect_eq]

/-- Values for the parameters of one provider. -/
def login (username password : String) : Credentials :=
  .map ((Dict.single "username" username).insert "password" password)

theorem indistinguishable_of_logins :
    (login "ann" "secret").Alike (login "bob" "key") ∧
      (login "ann" "secret").summary = (login "bob" "key").summary ∧
      (check (some (login "ann" "secret")) (some (ProviderInfo.of .ultradns).catalog) =
          .ok (login "ann" "secret") ∧
        check (some (login "bob" "key")) (some (ProviderInfo.of .ultradns).catalog) =
          .ok (login "bob" "key")) ∧
      (∃ r, check (some (login "ann" "secret")) (some (ProviderInfo.of .dynect).catalog) =
          .error r ∧
        check (some (login "bob" "key")) (some (ProviderInfo.of .dynect).catalog) = .error r) ∧
      ((ProviderKind.dynect.connect (some (login "ann" "secret"))).run.run ()) =
        (ProviderKind.dynect.connect (some (login "bob" "key"))).run.run () := by
  have halike : (login "ann" "secret").Alike (login "bob" "key") := .map fun _ => Iff.rfl
  obtain ⟨hsummary, hcheck, hconnect⟩ := indistinguishable_of_alike halike
  refine ⟨halike, hsummary, ?_, ?_, hconnect Unit .dynect ()⟩
  · obtain hok | ⟨r, hr, -⟩ := hcheck (some (ProviderInfo.of .ultradns).catalog)
    · exact hok
    · have hok : (check (some (login "ann" "secret"))
          (some (ProviderInfo.of .ultradns).catalog)).isOk = true := by decide +kernel
      rw [hr] at hok
      cases hok
  · obtain ⟨hok, -⟩ | hr := hcheck (some (ProviderInfo.of .dynect).catalog)
    · have herror : (check (some (login "ann" "secret"))
          (some (ProviderInfo.of .dynect).catalog)).isOk = false := by decide +kernel
      rw [hok] at herror
      cases herror
    · exact hr

/-- An empty list is not given back where nothing is needed: anonymous credentials are. -/
theorem emptyList_not_given_back :
    (list []).Alike (list []) ∧
      check (some (list [])) (some (ProviderInfo.of .mock).catalog) = .ok .anonymous ∧
      ¬ ∀ c d : Credentials, c.Alike d → ∀ catalog : Option CredentialCatalog,
        (check (some c) catalog = .ok c ∧ check (some d) catalog = .ok d) ∨
          ∃ r, check (some c) catalog = .error r ∧ check (some d) catalog = .error r := by
  have halike : (list []).Alike (list []) := .list rfl
  have hanonymous : check (some (list [])) (some (ProviderInfo.of .mock).catalog) =
      .ok .anonymous := rfl
  refine ⟨halike, hanonymous, fun hgiven => ?_⟩
  obtain ⟨hlist, -⟩ | ⟨r, hr, -⟩ := hgiven _ _ halike (some (ProviderInfo.of .mock).catalog)
  · rw [hanonymous] at hlist
    cases hlist
  · rw [hanonymous] at hr
    cases hr

end GeoRouting.Credentials
