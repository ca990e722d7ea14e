/-
# The ways that patterns lead

A path that is found goes on from the top by one name after another, and the components of the
pattern say which (`Leads`): each is for one name, or it is `**` and for any number of them. A name
is that of an entry of the tree, or one that stands in the pattern: then it is a component without
wildcards, or a point or two where the component begins with a point.

Key definitions: `IsEntry`, `Fits`, `Leads`.
Key theorems: `walkLeads`, `exists_leads_of_mem_expand`, `Leads.append`, `Leads.mem`.
-/
import Testsmith.Glob.Walk
import Testsmith.Proofs.Files.Parts
import Testsmith.Proofs.Glob.Escape

namespace Testsmith.Glob

/-- The name is that of an entry of the tree. -/
def IsEntry (t : FileTree) (name : String) : Prop := ∃ e ∈ t.entries, e.1.getLast? = some name

/-- A component leads to a name. -/
inductive Fits (t : FileTree) (p : Pattern) (name : String) : Prop
  | entry (there : IsEntry t name) (isMatch : Path.IsName name → p.isMatch name = true)
  /-- The component has no wildcards. -/
  | literal (stands : p.literal? = some name)
  /-- The component begins with a point, and what it matches leads nowhere or upwards. -/
  | pointed (head : p.tokens.head? = some (.char '.')) (points : name = "." ∨ name = "..")
      (isMatch : p.isMatch name = true)

/-- Components lead by names. -/
inductive Leads (t : FileTree) : List Pattern → List String → Prop
  | done : Leads t [] []
  | step {p : Pattern} {ps : List Pattern} {name : String} {names : List String}
      (fits : Fits t p name) (rest : Leads t ps names) : Leads t (p :: ps) (name :: names)
  | skip {p : Pattern} {ps : List Pattern} {names : List String} (any : p.isComponents = true)
      (rest : Leads t ps names) : Leads t (p :: ps) names
  | descend {p : Pattern} {ps : List Pattern} {name : String} {names : List String}
      (any : p.isComponents = true) (there : IsEntry t name) (rest : Leads t (p :: ps) names) :
      Leads t (p :: ps) (name :: names)

namespace Leads

variable {t : FileTree} {p : Pattern} {ps : List Pattern} {names : List String}

theorem of_dropWhile : ∀ {ps : List Pattern} {names : List String},
    Leads t (ps.dropWhile (·.isComponents)) names → Leads t ps names
  | [], _, h => h
  | p :: ps, names, h => by
    cases hp : p.isComponents with
    | false => rwa [List.dropWhile_cons_of_neg (by simp [hp])] at h
    | true =>
      rw [List.dropWhile_cons_of_pos hp] at h
      exact skip hp (of_dropWhile h)

/-- What comes after `**` may be `**` again. -/
theorem cons_of_dropWhile (h : Leads t (p :: ps.dropWhile (·.isComponents)) names) :
    Leads t (p :: ps) names := by
  induction names with
  | nil =>
    cases h with
    | skip any rest => exact skip any (of_dropWhile rest)
  | cons name names ih =>
    cases h with
    | step fits rest => exact step fits (of_dropWhile rest)
    | skip any rest => exact skip any (of_dropWhile rest)
    | descend any there rest => exact descend any there (ih rest)

/-- Components that are no `**` lead by one name each. -/
theorem append {qs : List Pattern} : ∀ {ps : List Pattern} {names : List String},
    (∀ p ∈ ps, p.isComponents = false) → Leads t (ps ++ qs) names →
      ∃ ms ns, names = ms ++ ns ∧ List.Forall₂ (Fits t) ps ms ∧ Leads t qs ns
  | [], names, _, h => ⟨[], names, rfl, .nil, h⟩
  | p :: ps, names, hps, h => by
    rw [List.forall_mem_cons] at hps
    have hnone (any : p.isComponents = true) : False := by
      rw [hps.1] at any
      cases any
    cases h with
    | step fits rest =>
      obtain ⟨ms, ns, rfl, hms, hns⟩ := append hps.2 rest
      exact ⟨_ :: ms, ns, rfl, .cons fits hms, hns⟩
    | skip any _ => exact absurd any hnone
    | descend any _ _ => exact absurd any hnone

/-- A name is an entry's, or one component is for it. -/
theorem mem (h : Leads t ps names) {name : String} (hn : name ∈ names) :
    IsEntry t name ∨ ∃ p ∈ ps, Fits t p name := by
  induction h with
  | done => cases hn
  | step fits _ ih =>
    rcases List.mem_cons.mp hn with rfl | hn
    · exact Or.inr ⟨_, List.mem_cons_self, fits⟩
    · exact (ih hn).imp_right fun ⟨p, hp, hf⟩ => ⟨p, List.mem_cons_of_mem _ hp, hf⟩
  | skip _ _ ih => exact (ih hn).imp_right fun ⟨p, hp, hf⟩ => ⟨p, List.mem_cons_of_mem _ hp, hf⟩
  | descend _ there _ ih =>
    rcases List.mem_cons.mp hn with rfl | hn
    · exact Or.inl there
    · exact ih hn

end Leads

/-! ### The walk -/

/-- Every path that is found from a directory goes on from it as the components lead. -/
structure WalkLeads (t : FileTree) (bound : Nat) : Prop where
  enter : ∀ ps (dir : Path), ∀ q ∈ enter t bound ps dir,
    ∃ names, Leads t ps names ∧ q = names.foldl Path.join dir
  arrive : ∀ ps (dir : Path), ∀ q ∈ arrive t bound ps dir,
    ∃ names, Leads t ps names ∧ q = names.foldl Path.join dir
  visit : ∀ ps (dir : Path) name, IsEntry t name → ∀ q ∈ visit t bound ps (dir.join name),
    ∃ names, Leads t ps (name :: names) ∧ q = names.foldl Path.join (dir.join name)
  named : ∀ ps (dir : Path) name, IsEntry t name → ∀ q ∈ named t bound ps (dir.join name),
    ∃ names, Leads t ps (name :: names) ∧ q = names.foldl Path.join (dir.join name)

theorem isEntry_of_mem_names {t : FileTree} {dir : Path} {name : String}
    (h : name ∈ (t.names dir).toOption.getD []) : IsEntry t name := by
  rw [FileTree.names] at h
  split at h
  · rw [Except.toOption, Option.getD_some, FileTree.childNames, List.mem_mergeSort] at h
    obtain ⟨e, he, hlast⟩ := List.mem_filterMap.mp h
    exact ⟨e, (List.mem_filter.mp he).1, hlast⟩
  · exact absurd h List.not_mem_nil
  · exact absurd h List.not_mem_nil

theorem fileName?_join (dir : Path) {name : String} (h : Path.IsName name) :
    (dir.join name).fileName? = some name := by
  rw [Path.fileName?, Path.components_join dir h, List.getLast?_concat]

variable {t : FileTree} {bound : Nat}

/-- One component that fits, and then the others. -/
theorem WalkLeads.step (h : WalkLeads t bound) {p : Pattern} {ps : List Pattern} {dir q : Path}
    {name : String} (hfits : Fits t p name) (hq : q ∈ Glob.arrive t bound ps (dir.join name)) :
    ∃ names, Leads t (p :: ps) (name :: names) ∧ q = names.foldl Path.join (dir.join name) := by
  obtain ⟨names, hnames, rfl⟩ := h.arrive _ _ _ hq
  exact ⟨names, .step hfits hnames, rfl⟩

/-- The next component is a name, or one for the entries of the directory, or it begins with a
point. -/
theorem WalkLeads.enter_succ (h : WalkLeads t bound) {ps : List Pattern} {dir q : Path}
    (hq : q ∈ Glob.enter t (bound + 1) ps dir) :
    ∃ names, Leads t ps names ∧ q = names.foldl Path.join dir := by
  cases ps with
  | nil => simp [Glob.enter] at hq
  | cons p ps =>
    rw [Glob.enter] at hq
    split at hq
    · rename_i name hliteral
      obtain ⟨-, hq⟩ := List.mem_ite_nil_right.mp hq
      obtain ⟨names, hnames, rfl⟩ := h.step (.literal hliteral) hq
      exact ⟨name :: names, hnames, rfl⟩
    · rcases List.mem_append.mp hq with hq | hq
      · obtain ⟨path, hpath, hq⟩ := List.mem_flatMap.mp hq
        obtain ⟨name, hname, rfl⟩ := List.mem_map.mp hpath
        obtain ⟨names, hnames, rfl⟩ := h.visit _ _ _ (isEntry_of_mem_names hname) _ hq
        exact ⟨name :: names, hnames, rfl⟩
      · obtain ⟨hhead, hq⟩ := List.mem_ite_nil_right.mp hq
        rw [Bool.and_eq_true, beq_iff_eq] at hhead
        obtain ⟨name, hname, hq⟩ := List.mem_flatMap.mp hq
        obtain ⟨hpoints, hmatch⟩ := List.mem_filter.mp hname
        have hpoints : name = "." ∨ name = ".." := by simpa using hpoints
        obtain ⟨names, hnames, rfl⟩ := h.step (.pointed hhead.1 hpoints hmatch) hq
        exact ⟨name :: names, hnames, rfl⟩

theorem WalkLeads.arrive_succ (h : WalkLeads t bound) {ps : List Pattern} {dir q : Path}
    (hq : q ∈ Glob.arrive t (bound + 1) ps dir) :
    ∃ names, Leads t ps names ∧ q = names.foldl Path.join dir := by
  cases ps with
  | nil =>
    have hq : q ∈ [dir] := by rwa [Glob.arrive] at hq; simp
    exact ⟨[], .done, List.mem_singleton.mp hq⟩
  | cons p ps =>
    rw [Glob.arrive] at hq
    · exact h.enter _ _ _ hq
    · simp

/-- A `**` stays where the walk goes down, and is passed over where it ends or takes up a name. -/
theorem WalkLeads.visit_succ (h : WalkLeads t bound) {ps : List Pattern} {dir q : Path}
    {name : String} (hname : IsEntry t name)
    (hq : q ∈ Glob.visit t (bound + 1) ps (dir.join name)) :
    ∃ names, Leads t ps (name :: names) ∧ q = names.foldl Path.join (dir.join name) := by
  cases ps with
  | nil => simp [Glob.visit] at hq
  | cons p ps =>
    rw [Glob.visit] at hq
    split at hq
    · rename_i hany
      rcases List.mem_append.mp hq with hq | hq
      · obtain ⟨-, hq⟩ := List.mem_ite_nil_right.mp hq
        obtain ⟨names, hnames, rfl⟩ := h.enter _ _ _ hq
        exact ⟨names, .descend hany hname hnames.cons_of_dropWhile, rfl⟩
      · split at hq
        · rename_i hrest
          have hdone : Leads t (ps.dropWhile (·.isComponents)) [] := by
            rw [List.isEmpty_iff.mp hrest]
            exact .done
          obtain ⟨-, hq⟩ := List.mem_ite_nil_right.mp hq
          rw [List.mem_singleton.mp hq]
          exact ⟨[], .descend hany hname (.skip hany (.of_dropWhile hdone)), rfl⟩
        · obtain ⟨names, hnames, rfl⟩ := h.named _ _ _ hname _ hq
          exact ⟨names, .skip hany (.of_dropWhile hnames), rfl⟩
    · exact h.named _ _ _ hname _ hq

theorem WalkLeads.named_succ (h : WalkLeads t bound) {ps : List Pattern} {dir q : Path}
    {name : String} (hname : IsEntry t name)
    (hq : q ∈ Glob.named t (bound + 1) ps (dir.join name)) :
    ∃ names, Leads t ps (name :: names) ∧ q = names.foldl Path.join (dir.join name) := by
  cases ps with
  | nil => simp [Glob.named] at hq
  | cons p ps =>
    rw [Glob.named] at hq
    obtain ⟨hmatch, hq⟩ := List.mem_ite_nil_right.mp hq
    refine h.step (.entry hname fun hn => ?_) hq
    rwa [fileName?_join dir hn] at hmatch

/-- The induction is on the bound of the walk, in all its parts at once. -/
theorem walkLeads (t : FileTree) : ∀ bound, WalkLeads t bound
  | 0 => by
    constructor <;> intros <;> simp_all [enter, arrive, visit, named]
  | bound + 1 => by
    have ih := walkLeads t bound
    exact
      { enter := fun _ _ _ hq => ih.enter_succ hq
        arrive := fun _ _ _ hq => ih.arrive_succ hq
        visit := fun _ _ _ hname _ hq => ih.visit_succ hname hq
        named := fun _ _ _ hname _ hq => ih.named_succ hname hq }

/-- **A path that is found goes on from the top as the components of its pattern lead.** -/
theorem exists_leads_of_mem_expand {t : FileTree} {pattern : PathPattern} {q : Path}
    (h : q ∈ pattern.expand t) :
    ∃ names, Leads t pattern.components names ∧ q = names.foldl Path.join ⟨"/"⟩ :=
  (walkLeads t _).enter _ _ _ (List.mem_filter.mp h).1

end Testsmith.Glob
