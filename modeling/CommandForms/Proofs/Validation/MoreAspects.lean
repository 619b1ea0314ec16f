import CommandForms.Proofs.Catalog.Merge
import CommandForms.Proofs.Validation.Places

/-!
# More aspect names

The validation of a value with some aspect names known, and with more of them known.  The two go alike up to
the first name that only the second one knows.  A value that is valid stays valid, whichever way a catalog
comes by further names.
-/

namespace CommandForms

open CommandForms.Json (Value)

namespace AspectSet

/-- Every name of the first set is in the second one. -/
instance : HasSubset AspectSet :=
  ⟨fun aspects more => ∀ name, aspects.contains name = true → more.contains name = true⟩

theorem subset_extend (aspects : AspectSet) (names : List String) : aspects ⊆ aspects.extend names :=
  fun _ hname => contains_extend.mpr (.inr hname)

end AspectSet

namespace Validation

variable {aspects more : AspectSet} {outcome eased : Outcome}

/-! ## Two outcomes -/

/-- The outcomes of a check with some names known and with more: they are the same, or the first one refuses a
name that only the second one knows. -/
inductive Eased (aspects more : AspectSet) : Outcome → Outcome → Prop
  | same (outcome : Outcome) : Eased aspects more outcome outcome
  | unknown {path : List Step} {name : String} {eased : Outcome}
      (hunknown : aspects.contains name = false) (hknown : more.contains name = true) :
      Eased aspects more (.error ⟨path, .unknownAspect name⟩) eased

theorem Eased.within (h : Eased aspects more outcome eased) (step : Step) :
    Eased aspects more (within step outcome) (within step eased) := by
  cases h with
  | same => exact .same _
  | unknown hunknown hknown => exact .unknown hunknown hknown

theorem Eased.bind {rest easedRest : Unit → Outcome} (h : Eased aspects more outcome eased)
    (hrest : Eased aspects more (rest ()) (easedRest ())) :
    Eased aspects more (outcome >>= rest) (eased >>= easedRest) := by
  cases h with
  | same =>
      cases outcome with
      | error e => exact .same _
      | ok => exact hrest
  | unknown hunknown hknown => exact .unknown hunknown hknown

theorem Eased.eq_ok (h : Eased aspects more (.ok ()) eased) : eased = .ok () := by
  cases h
  rfl

theorem Eased.error_cases {e e' : Error} (h : Eased aspects more (.error e) (.error e')) :
    e = e' ∨ ∃ name, e.violation = .unknownAspect name ∧ more.contains name = true ∧
      aspects.contains name = false := by
  cases h with
  | same => exact .inl rfl
  | unknown hunknown hknown => exact .inr ⟨_, rfl, hknown, hunknown⟩

/-! ## The checks -/

theorem eased_checkAspects (hmore : aspects ⊆ more) (counts : List (String × Value)) :
    Eased aspects more (checkAspects aspects counts) (checkAspects more counts) := by
  induction counts with
  | nil => exact .same _
  | cons entry counts ih =>
      obtain ⟨name, count⟩ := entry
      unfold checkAspects
      cases hname : aspects.contains name with
      | true =>
          rw [hmore name hname, if_pos rfl, if_pos rfl]
          cases count.safeInteger? with
          | none => exact .same _
          | some n =>
              dsimp only
              split
              · exact .same _
              · exact ih
      | false =>
          cases hname' : more.contains name with
          | true => exact .unknown hname hname'
          | false => exact .same _

theorem eased_checkElements {check easedCheck : Value → Outcome}
    (h : ∀ item, Eased aspects more (check item) (easedCheck item)) (index : Nat) (items : List Value) :
    Eased aspects more (checkElements check index items) (checkElements easedCheck index items) := by
  induction items generalizing index with
  | nil => exact .same _
  | cons item items ih =>
      unfold checkElements
      exact ((h item).within _).bind (ih (index + 1))

theorem eased_checkFields {members : List (String × Value)} {fields : List (String × Schema)}
    (h : ∀ field ∈ fields, ∀ value,
      Eased aspects more (check aspects field.2 value) (check more field.2 value)) :
    Eased aspects more (checkFields aspects members fields) (checkFields more members fields) := by
  induction fields with
  | nil => exact .same _
  | cons field fields ih =>
      obtain ⟨hfirst, hrest⟩ := List.forall_mem_cons.mp h
      rw [checkFields_cons, checkFields_cons]
      refine .bind ?_ (ih hrest)
      unfold checkField
      cases Entries.find? field.1 members with
      | none => exact .same _
      | some value => exact (hfirst value).within _

theorem eased_check (hmore : aspects ⊆ more) (s : Schema) (value : Value) :
    Eased aspects more (check aspects s value) (check more s value) := by
  induction s using Schema.induction generalizing value with
  | aspectMap label keys =>
      cases value with
      | object counts => exact (eased_checkAspects hmore counts).bind (.same _)
      | _ => exact .same _
  | object label fields ih =>
      cases value with
      | object members => exact eased_checkFields ih
      | _ => exact .same _
  | array label element length ih =>
      cases value with
      | array items => exact (Eased.same _).bind (eased_checkElements ih 0 items)
      | _ => exact .same _
  | _ => cases value <;> exact .same _

theorem validate_of_subset (hmore : aspects ⊆ more) {s : Schema} {value : Value}
    (h : validate value s aspects = .ok ()) : validate value s more = .ok () := by
  have heased : Eased aspects more (validate value s aspects) (validate value s more) :=
    eased_check hmore s value
  rw [h] at heased
  exact heased.eq_ok

end Validation

/-! ## Catalogs that come by further names -/

namespace Catalog

variable {catalog larger : Catalog} {files : Files} {paths morePaths names moreNames : List String}

theorem subset_extendAspects (catalog : Catalog) (names : List String) :
    catalog.aspects ⊆ (catalog.extendAspects names).aspects :=
  catalog.aspects.subset_extend names

theorem subset_merge (catalog later : Catalog) :
    catalog.aspects ⊆ (catalog.merge later).aspects ∧ later.aspects ⊆ (catalog.merge later).aspects :=
  ⟨fun _ hname => contains_aspects_merge.mpr (.inr hname),
    fun _ hname => contains_aspects_merge.mpr (.inl hname)⟩

theorem MergedFrom.subset (h : MergedFrom files paths names catalog)
    (hlarger : MergedFrom files morePaths moreNames larger) (hpaths : paths ⊆ morePaths)
    (hnames : names ⊆ moreNames) : catalog.aspects ⊆ larger.aspects := by
  intro name hname
  rw [hlarger.aspects]
  rcases (h.aspects name).mp hname with hmem | ⟨path, hpath, source, hload, hcontains⟩
  · exact .inl (hnames hmem)
  · exact .inr ⟨path, hpaths hpath, source, hload, hcontains⟩

/-- With further paths and further names, files that give a catalog give one with all its names. -/
theorem exists_loadAll_of_subset (h : loadAll files paths names = .ok catalog)
    (hpaths : paths ⊆ morePaths) (hnames : names ⊆ moreNames) :
    ∃ larger, loadAll files morePaths moreNames = .ok larger ∧ catalog.aspects ⊆ larger.aspects := by
  rcases loadAll_cases files paths names with ⟨_, herror⟩ |
    ⟨⟨path, hpath, hloads⟩, merged, hmerged, hholds⟩
  · cases h.symm.trans herror
  · cases h.symm.trans hmerged
    obtain ⟨larger, hlarger, hholds'⟩ := exists_loadAll (hpaths hpath) hloads moreNames
    exact ⟨larger, hlarger, hholds.subset hholds' hpaths hnames⟩

end Catalog

namespace Validation

/-- Knowing more aspect names makes no value invalid.  A value that is valid with some names known is valid
with more of them known; and when it is invalid with both, its errors are the same, or the first one is about
a name that only the larger set has.  So a catalog that is extended by names, merged with a later one, or
loaded from further files and with further names has for every schema all the valid values it had. -/
theorem more_aspects_keep_values :
    (∀ (aspects more : AspectSet) (s : Schema) (value : Value), aspects ⊆ more →
      (validate value s aspects = .ok () → validate value s more = .ok ()) ∧
      ∀ e e', validate value s aspects = .error e → validate value s more = .error e' →
        e = e' ∨ ∃ name, e.violation = .unknownAspect name ∧ more.contains name = true ∧
          aspects.contains name = false) ∧
    (∀ (catalog : Catalog) (names : List String) (s : Schema) (value : Value),
      validate value s catalog.aspects = .ok () →
      validate value s (catalog.extendAspects names).aspects = .ok ()) ∧
    (∀ (catalog later : Catalog) (s : Schema) (value : Value),
      validate value s catalog.aspects = .ok () ∨ validate value s later.aspects = .ok () →
      validate value s (catalog.merge later).aspects = .ok ()) ∧
    ∀ (files : Files) (paths morePaths names moreNames : List String) (catalog : Catalog),
      paths ⊆ morePaths → names ⊆ moreNames → Catalog.loadAll files paths names = .ok catalog →
      ∃ larger, Catalog.loadAll files morePaths moreNames = .ok larger ∧
        ∀ s value, validate value s catalog.aspects = .ok () → validate value s larger.aspects = .ok () := by
  refine ⟨fun aspects more s value hmore => ⟨validate_of_subset hmore, fun e e' he he' => ?_⟩,
    fun catalog names s value h => ?_, fun catalog later s value h => ?_,
    fun files paths morePaths names moreNames catalog hpaths hnames h => ?_⟩
  · have heased : Eased aspects more (validate value s aspects) (validate value s more) :=
      eased_check hmore s value
    rw [he, he'] at heased
    exact heased.error_cases
  · exact validate_of_subset (catalog.subset_extendAspects names) h
  · obtain ⟨hearlier, hlater⟩ := catalog.subset_merge later
    rcases h with h | h
    · exact validate_of_subset hearlier h
    · exact validate_of_subset hlater h
  · obtain ⟨larger, hlarger, hmore⟩ := Catalog.exists_loadAll_of_subset h hpaths hnames
    exact ⟨larger, hlarger, fun s value => validate_of_subset hmore⟩

/-- The levels of two skills, the second one of which is missing. -/
def skillLevels : Value :=
  .object [("forge", .number (.ofInt64 3)), ("moth", .null)]

theorem more_aspects_keep_values_skills :
    let s : Schema := .aspectMap ⟨"levels", true⟩ {}
    let aspects : AspectSet := .ofList ["forge"]
    let more : AspectSet := aspects.extend ["moth"]
    aspects ⊆ more ∧
      validate skillLevels s aspects = .error ⟨[], .unknownAspect "moth"⟩ ∧
      validate skillLevels s more = .error ⟨[], .aspectNotInteger "moth"⟩ ∧
      more.contains "moth" = true ∧ aspects.contains "moth" = false ∧
      validate (.object [("forge", .number (.ofInt64 3))]) s more = .ok () := by
  intro s aspects more
  have hmore : aspects ⊆ more := aspects.subset_extend ["moth"]
  have hfirst : validate skillLevels s aspects = .error ⟨[], .unknownAspect "moth"⟩ := by decide +kernel
  have hsecond : validate skillLevels s more = .error ⟨[], .aspectNotInteger "moth"⟩ := by
    decide +kernel
  have hvalid : validate (.object [("forge", .number (.ofInt64 3))]) s aspects = .ok () := by
    decide +kernel
  obtain ⟨-, herrors⟩ := more_aspects_keep_values.1 aspects more s skillLevels hmore
  obtain ⟨hkeeps, -⟩ := more_aspects_keep_values.1 aspects more s _ hmore
  refine ⟨hmore, hfirst, hsecond, ?_⟩
  rcases herrors _ _ hfirst hsecond with heq | ⟨name, hname, hknown, hunknown⟩
  · cases heq
  · cases hname
    exact ⟨hknown, hunknown, hkeeps hvalid⟩

end Validation

end CommandForms
