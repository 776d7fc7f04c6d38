import OpcodeForge.Proofs.Addressing.Variants
import OpcodeForge.Proofs.Generation

/-!
# Runs with Other Flags

Flags decide which modes a run accepts, and nothing else. Two runs that differ in their flags
only have variants of one registry, and a row that is accepted by both declares the same in
both. So if both runs make their outputs then these are the same (`entries_eq_of_variants`),
however little the two sets of enabled modes have in common.

A run that accepts more modes than one that makes its outputs makes them too. That takes more
than that each row still declares something: the rows must not get into each other's way, the
defaults must keep their modes, and the dispatch looks modes up by their codes
(`rowFailures_of_within`, `generate_of_within`).

## Main definitions

* `Registry.Enables`: A label that is enabled by flags.
* `Generator.Makes`: What a run that is set up with flags makes.

## Theorems

* `declares_of_within`: A row declares the same when more modes are enabled.
* `declares_agree`: A row that declares something in both of two variants declares the same.
* `rowFailures_of_within`: Rows without faults stay without.
* `Validated.entries_eq_of_variants`: Variants lead to the same slots.
* `generate_of_within`: More enabled modes do no harm.
* `makes_of_flags`: What flags decide about a run.
-/

namespace OpcodeForge

open Addressing (Capability Registry defaultCapabilities)
open Addressing.Registry (Variants Within)
open Opcode
open Specification

/-- A label that is enabled once flags were set. -/
def Addressing.Registry.Enables (r : Registry) (flags : List (String × Bool))
    (label : String) : Prop :=
  ∃ r', r.withOverrides flags = .ok r' ∧ r'.contains label = true

namespace Opcode

theorem declares_of_within (r r' : Registry) (h : Within r r') (i : Instruction) (row : Row)
    (e : Entry) (hdec : Declares r i row e) : Declares r' i row e := by
  cases hdec with
  | columns label form opcode bytes cycles rest mode n digits plus hmode hopcode hcycles =>
      exact .columns label form opcode bytes cycles rest mode n digits plus
        (h.label label mode hmode) hopcode hcycles

theorem declares_unique (r : Registry) (i : Instruction) (row : Row) (e e' : Entry)
    (h : Declares r i row e) (h' : Declares r i row e') : e = e' := by
  rw [← declaration_eq_ok_iff] at h h'
  rw [h, Except.ok.injEq] at h'
  exact h'

/-- A row that declares something in both of two variants declares the same. -/
theorem declares_agree (r r' : Registry) (h : Variants r r') (i : Instruction) (row : Row)
    (e e' : Entry) (hdec : Declares r i row e) (hdec' : Declares r' i row e') : e = e' := by
  cases hdec with
  | columns label form opcode bytes cycles rest mode n digits plus hmode hopcode hcycles =>
      cases hdec' with
      | columns _ _ _ _ _ _ mode' n' digits' plus' hmode' hopcode' hcycles' =>
          rw [hopcode, Option.some.injEq] at hopcode'
          rw [hcycles, Option.some.injEq, Prod.mk.injEq] at hcycles'
          rw [h.enabledLabel?_agree label mode mode' hmode hmode', hopcode', hcycles'.1,
            hcycles'.2]

/-- Rows without faults stay without when more modes are enabled. -/
theorem rowFailures_of_within (r r' : Registry) (h : Within r r')
    (rows : List (Instruction × Row)) (hnone : rowFailures r [] rows = []) :
    rowFailures r' [] rows = [] := by
  rcases (rowFailures_eq_nil_iff r rows).mp hnone with ⟨hdec, happart⟩
  rw [rowFailures_eq_nil_iff]
  have hsame : ∀ x ∈ rows, ∀ e, Declares r' x.1 x.2 e → Declares r x.1 x.2 e := by
    intro x hx e he
    rcases hdec x hx with ⟨e', he'⟩
    rw [declares_unique r' x.1 x.2 e e' he (declares_of_within r r' h x.1 x.2 e' he')]
    exact he'
  constructor
  · intro x hx
    rcases hdec x hx with ⟨e, he⟩
    exact ⟨e, declares_of_within r r' h x.1 x.2 e he⟩
  · refine happart.imp_of_mem ?_
    intro x y hx hy hxy e e' he he'
    exact hxy e e' (hsame x hx e he) (hsame y hy e' he')

/-- Where every row declares something in a variant, what is declared there is what is
    declared here. -/
theorem declaredAs_of_variants (r r' : Registry) (h : Variants r r') (is : List Instruction)
    (hnone : rowFailures r' [] (rowsOf is) = []) (k : Fin opcodeSpace) (e : Entry)
    (hdec : DeclaredAs r is k e) : DeclaredAs r' is k e := by
  rcases hdec with ⟨i, hi, rows, hrows, row, hrow, hdec, hk⟩
  rcases ((rowFailures_eq_nil_iff r' _).mp hnone).1 (i, row)
    ((mem_rowsOf_iff is (i, row)).mpr ⟨hi, rows, hrows, hrow⟩) with ⟨e', he'⟩
  have hsame := declares_agree r r' h i row e e' hdec he'
  exact ⟨i, hi, rows, hrows, row, hrow, hsame ▸ he', hk⟩

end Opcode

namespace Generator

/-- What is made by a run that is set up with flags. -/
def Makes (d₀ d : Disk) (settings : Settings) (registry : Registry)
    (reference : Option (List ReferenceRow)) (flags : List (String × Bool))
    (made : Generation) : Prop :=
  ∃ g, ofSettings d₀ { settings with modes := flags } registry reference = .ok g ∧
    (g.generate d).2 = .ok made

theorem Validated.reading_unique {g g' : Generator} {d : Disk} {reading reading' : Reading}
    {b b' : Builder} (hdirectory : g.settings.specDirectory = g'.settings.specDirectory)
    (hheadings : g.settings.headings = g'.settings.headings) (hv : Validated g d reading b)
    (hv' : Validated g' d reading' b') : reading = reading' := by
  rcases hv.documents with ⟨lib, ids, hdocuments, hread⟩
  rcases hv'.documents with ⟨lib', ids', hdocuments', hread'⟩
  rw [hdirectory, hdocuments', Except.ok.injEq, Prod.mk.injEq] at hdocuments
  rw [← hdocuments.1, ← hdocuments.2, hheadings, hread'] at hread
  exact (Prod.mk.inj hread).1.symm

/-- Variants of one registry lead to the same slots, if neither finds anything wrong. -/
theorem Validated.entries_eq_of_variants {g g' : Generator} {d : Disk} {reading : Reading}
    {b b' : Builder} (hreference : g.reference = g'.reference)
    (h : Variants g.registry g'.registry) (hv : Validated g d reading b)
    (hv' : Validated g' d reading b') : b.entries = b'.entries := by
  rcases hv.holds with ⟨_, _, _, _, _, hrows⟩
  rcases hv'.holds with ⟨_, _, _, _, _, hrows'⟩
  have hdec : ∀ k e, DeclaredAs g.registry reading.instructions k e ↔
      DeclaredAs g'.registry reading.instructions k e := fun k e =>
    ⟨declaredAs_of_variants _ _ h _ hrows' k e, declaredAs_of_variants _ _ h.symm _ hrows k e⟩
  refine Builder.entries_congr b b' fun k => Option.ext fun e => ?_
  rw [hv.get?_iff, hv'.get?_iff, hreference]
  simp only [hdec]

/-- A run with more enabled modes than one that makes its outputs makes them too. -/
theorem generate_of_within (g g' : Generator) (d : Disk)
    (hdirectory : g.settings.specDirectory = g'.settings.specDirectory)
    (hheadings : g.settings.headings = g'.settings.headings)
    (hreference : g.reference = g'.reference) (h : Variants g.registry g'.registry)
    (hwithin : Within g.registry g'.registry) (hmade : ∃ made, (g.generate d).2 = .ok made) :
    ∃ made, (g'.generate d).2 = .ok made := by
  rcases hmade with ⟨made, hmade⟩
  rcases (generate_eq_ok_iff g d made).mp hmade with ⟨reading, b, hv, hrender, _⟩
  rcases (exists_validated_iff g d reading).mp ⟨b, hv⟩ with
    ⟨hdocuments, hdocument, hlen, hread, href, hrow⟩
  have href' : referenceFailures g'.registry 0 g'.reference = [] := by
    rw [referenceFailures_eq_nil_iff] at href ⊢
    rw [← hreference]
    exact fun r hr hname => hwithin.code r.mode (href r hr hname)
  rw [hdirectory, hheadings] at hdocuments
  rcases (exists_validated_iff g' d reading).mpr ⟨hdocuments, hdocument, hreference ▸ hlen, hread,
    href', rowFailures_of_within _ _ hwithin _ hrow⟩ with ⟨b', hv'⟩
  refine ⟨_, (generate_eq_ok_iff g' d _).mpr ⟨reading, b', hv', fun e he => ?_, rfl⟩⟩
  rw [← hv.entries_eq_of_variants hreference h hv'] at he
  exact ⟨hwithin.code e.mode (hrender e he).1, (hrender e he).2⟩

/-- Flags decide whether a run makes its outputs, and not which. If all that is enabled by
    some flags is enabled by others too, then a run with the latter makes its outputs if one
    with the former does. And whatever two sets of flags enable, if runs with both of them
    make their outputs then they make the same. -/
theorem makes_of_flags (d₀ d : Disk) (settings : Settings) (cs : List Capability)
    (reference : Option (List ReferenceRow)) (flags flags' : List (String × Bool)) :
    ((∀ x ∈ flags', ((Registry.ofList cs).byLabel? x.1).isSome = true) →
      (∀ label, (Registry.ofList cs).Enables flags label →
        (Registry.ofList cs).Enables flags' label) →
      (∃ made, Makes d₀ d settings (.ofList cs) reference flags made) →
        ∃ made, Makes d₀ d settings (.ofList cs) reference flags' made) ∧
    ∀ made made', Makes d₀ d settings (.ofList cs) reference flags made →
      Makes d₀ d settings (.ofList cs) reference flags' made' → made = made' := by
  constructor
  · rintro hknown hmore ⟨made, g, hg, hmade⟩
    rcases (ofSettings_eq_ok_iff d₀ _ _ reference g).mp hg with ⟨hsettings, hregistry, hreference⟩
    rcases Registry.exists_overrides (.ofList cs) flags' hknown with ⟨r', hr'⟩
    have hvariants := Registry.variants_of_overrides cs flags flags' g.registry r' hregistry hr'
    have hwithin := hvariants.within_of_contains fun label hlabel => by
      rcases hmore label ⟨g.registry, hregistry, hlabel⟩ with ⟨r, hr, hcontains⟩
      rw [hr', Except.ok.injEq] at hr
      rw [hr]
      exact hcontains
    rcases generate_of_within g ⟨{ settings with modes := flags' }, r', g.reference⟩ d
      (by rw [hsettings]) (by rw [hsettings]) rfl hvariants hwithin ⟨made, hmade⟩ with
      ⟨made', hmade'⟩
    refine ⟨made', ⟨{ settings with modes := flags' }, r', g.reference⟩, ?_, hmade'⟩
    exact (ofSettings_eq_ok_iff d₀ _ _ reference _).mpr ⟨rfl, hr', hreference⟩
  · rintro made made' ⟨g, hg, hmade⟩ ⟨g', hg', hmade'⟩
    rcases (ofSettings_eq_ok_iff d₀ _ _ reference g).mp hg with ⟨hsettings, hregistry, hchosen⟩
    rcases (ofSettings_eq_ok_iff d₀ _ _ reference g').mp hg' with
      ⟨hsettings', hregistry', hchosen'⟩
    have hreference : g.reference = g'.reference :=
      Except.ok.inj (hchosen.symm.trans hchosen')
    have hvariants := Registry.variants_of_overrides cs flags flags' _ _ hregistry hregistry'
    rcases (generate_eq_ok_iff g d made).mp hmade with ⟨reading, b, hv, _, rfl⟩
    rcases (generate_eq_ok_iff g' d made').mp hmade' with ⟨reading', b', hv', _, rfl⟩
    have hreading : reading = reading' :=
      hv.reading_unique (by rw [hsettings, hsettings']) (by rw [hsettings, hsettings']) hv'
    rw [← hreading] at hv' ⊢
    unfold rendered
    rw [hv.entries_eq_of_variants hreference hvariants hv']

/-- All that the processor has enabled stays enabled when one more mode is. -/
theorem enables_relative (label : String)
    (h : (Registry.ofList defaultCapabilities).Enables [] label) :
    (Registry.ofList defaultCapabilities).Enables [("Relative", true)] label := by
  have hfirst : (Registry.ofList defaultCapabilities).withOverrides []
      = .ok (.ofList (Registry.ofList defaultCapabilities).labelled) := rfl
  have hsecond : (Registry.ofList defaultCapabilities).withOverrides [("Relative", true)]
      = .ok (.ofList (Addressing.setLabel ⟨"Relative", "rel", true⟩
        (Registry.ofList defaultCapabilities).labelled)) := rfl
  have hsub : ∀ c ∈ (Registry.ofList (Registry.ofList defaultCapabilities).labelled).labelled,
      c.enabled = true → c ∈ (Registry.ofList (Addressing.setLabel ⟨"Relative", "rel", true⟩
        (Registry.ofList defaultCapabilities).labelled)).labelled := by decide +kernel
  rcases h with ⟨r, hr, hlabel⟩
  rw [hfirst, Except.ok.injEq] at hr
  rw [← hr] at hlabel
  rcases Option.isSome_iff_exists.mp hlabel with ⟨c, hc⟩
  rcases ((Registry.tidy_of_overrides _ _ _ hfirst).1.enabledLabel?_eq_some_iff label c).mp hc with
    ⟨hmem, hname, henabled⟩
  refine ⟨_, hsecond, Option.isSome_of_eq_some
    (((Registry.tidy_of_overrides _ _ _ hsecond).1.enabledLabel?_eq_some_iff label c).mpr
      ⟨hsub c hmem henabled, hname, henabled⟩)⟩

/-- Enabling one more mode leaves the outputs of a run as they are. -/
theorem makes_of_flags_relative :
    let r := Registry.ofList defaultCapabilities
    let more := [("Relative", true)]
    (∀ x ∈ more, (r.byLabel? x.1).isSome = true) ∧
      (∀ label, r.Enables [] label → r.Enables more label) ∧
      ∃ made, Makes loadDisk loadDisk (loadRun 2).settings r (some (onePlaceholder 2)) [] made ∧
        Makes loadDisk loadDisk (loadRun 2).settings r (some (onePlaceholder 2)) more made := by
  intro r more
  have hknown : ∀ x ∈ more, (r.byLabel? x.1).isSome = true := by decide
  rcases makes_of_flags loadDisk loadDisk (loadRun 2).settings defaultCapabilities
    (some (onePlaceholder 2)) [] more with ⟨hmakes, hsame⟩
  rcases generate_loadRun with ⟨b, _, hmade⟩
  have hfirst : Makes loadDisk loadDisk (loadRun 2).settings r (some (onePlaceholder 2)) []
      (rendered ⟨[loadInstruction], [], []⟩ b) := ⟨loadRun 2, rfl, hmade⟩
  rcases hmakes hknown enables_relative ⟨_, hfirst⟩ with ⟨made, hsecond⟩
  rw [← hsame _ made hfirst hsecond] at hsecond
  exact ⟨hknown, enables_relative, _, hfirst, hsecond⟩

end Generator

end OpcodeForge
