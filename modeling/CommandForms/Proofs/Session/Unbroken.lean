import CommandForms.Proofs.Catalog.Admitted
import CommandForms.Proofs.Catalog.RoundTrip
import CommandForms.Proofs.Dialogue.Unbroken
import CommandForms.Session.Loop

/-!
# Sessions that do not break

A session over a loaded catalog does not break: every conversation that it starts is for a schema whose
delimiters were checked when the catalog was loaded.
-/

namespace CommandForms.Session

open CommandForms.Dialogue (Failure Terminal Unbroken resolveTurn)

/-- A session that reads from a terminal breaks: in the conversation that a line asks for, or later. -/
inductive Breaks (catalog : Catalog) (prompt : String) : Terminal → Prop
  | command {line name arguments : String} {command : Command} {t t' : Terminal}
      (hread : t.readLine prompt (some (menu catalog)) = (.ok line, t'))
      (hline : Request.ofLine line = .command name arguments)
      (hfind : catalog.find? name = some command)
      (hbreaks : Dialogue.Breaks catalog.aspects
        (resolveTurn arguments command.schema catalog.aspects) t') :
      Breaks catalog prompt t
  | later {line : String} {t t' t'' : Terminal}
      (hread : t.readLine prompt (some (menu catalog)) = (.ok line, t'))
      (hstep : step catalog line t' = (.ok .goOn, t'')) (hbreaks : Breaks catalog prompt t'') :
      Breaks catalog prompt t

variable {catalog : Catalog} {prompt : String} {t : Terminal} {e : BadDelimiter}

theorem not_breaks (hcatalog : catalog.Checked) : ¬ Breaks catalog prompt t := by
  intro h
  induction h with
  | @command line name arguments command t t' _ _ hfind hbreaks =>
      exact (Dialogue.unbroken_resolveTurn (hcatalog.find? hfind).delimiters _ arguments t').steps hbreaks
  | later _ _ _ ih => exact ih

/-! ## How sessions end -/

theorem writeLines_ne_badDelimiter (texts : List String) (t : Terminal) :
    (writeLines texts t).1 ≠ .error (.badDelimiter e) := by
  induction texts generalizing t with
  | nil => exact nofun
  | cons text texts ih =>
      unfold writeLines
      split
      · exact ih _
      · exact nofun

theorem serve_ne_badDelimiter (hcatalog : catalog.Checked) (request : Request) (t : Terminal) :
    (serve catalog request t).1 ≠ .error (.badDelimiter e) := by
  cases request with
  | nothing => exact nofun
  | quit => exact nofun
  | help => exact writeLines_ne_badDelimiter _ t
  | names => exact writeLines_ne_badDelimiter _ t
  | command name arguments =>
      unfold serve
      dsimp only
      split
      · exact writeLines_ne_badDelimiter _ t
      · rename_i command hfind
        have hunbroken :=
          Dialogue.unbroken_resolveTurn (hcatalog.find? hfind).delimiters catalog.aspects arguments t
        unfold runCommand
        split
        · exact writeLines_ne_badDelimiter _ _
        · rename_i failure t' hresolve
          intro hfailure
          cases hfailure
          exact hunbroken.ending e (congrArg Prod.fst hresolve)

theorem step_ne_badDelimiter (hcatalog : catalog.Checked) (line : String) (t : Terminal) :
    (step catalog line t).1 ≠ .error (.badDelimiter e) := by
  unfold step
  split
  · exact writeLines_ne_badDelimiter _ _
  · exact serve_ne_badDelimiter hcatalog _ t

theorem run_ne_badDelimiter (hcatalog : catalog.Checked) (prompt : String) (t : Terminal) :
    (run catalog prompt t).1 ≠ .error (.badDelimiter e) := by
  fun_induction run catalog prompt t with
  | case1 => exact nofun
  | case2 => exact nofun
  | case3 t line t' _ t'' _ ih => exact ih
  | case4 => exact nofun
  | case5 t line t' _ failure t'' hstep =>
      intro hfailure
      cases hfailure
      exact step_ne_badDelimiter hcatalog line t' (congrArg Prod.fst hstep)

/-! ## The check of delimiters is enough -/

/-- The check of a schema accepts it exactly when the delimiter patterns of all schemas inside it are well
formed, and otherwise reports the first one that is not, in declaration order.  Neither a construction nor
the resolution of argument text breaks for a schema that the check accepts, on any terminal, and no session
over a loaded catalog does. -/
theorem checkDelimiters_exact_and_sufficient (s : Schema) :
    (s.checkDelimiters = .ok () ↔ s.Everywhere Schema.WellFormedDelimiter) ∧
    (∀ e, s.checkDelimiters = .error e ↔
      ∃ before after, s.delimiters = before ++ e.pattern :: after ∧
        (∀ pattern ∈ before, WellFormedPattern pattern) ∧ ¬ WellFormedPattern e.pattern) ∧
    (s.checkDelimiters = .ok () → ∀ aspects t,
      Unbroken aspects (Dialogue.constructTurn aspects s) t ∧
        ∀ raw, Unbroken aspects (resolveTurn raw s aspects) t) ∧
    ∀ catalog, Catalog.Loaded catalog → ∀ prompt t,
      ¬ Breaks catalog prompt t ∧ ∀ e, (run catalog prompt t).1 ≠ .error (.badDelimiter e) := by
  refine ⟨Schema.checkDelimiters_eq_ok, fun e => Schema.checkDelimiters_eq_error, ?_, ?_⟩
  · intro hs aspects t
    constructor
    · exact Dialogue.unbroken_constructTurn hs aspects t
    · exact fun raw => Dialogue.unbroken_resolveTurn hs aspects raw t
  · intro catalog hloaded prompt t
    constructor
    · exact not_breaks hloaded.checked
    · exact fun e => run_ne_badDelimiter hloaded.checked prompt t

/-- An address whose path and whose groups are entered part by part. -/
def addressSchema : Schema :=
  .object ⟨"address", true⟩
    [("path", .string ⟨"path", true⟩ { autocomplete := ["a.b", "a.c"], delimiter := some "\\." }),
      ("groups", .stringSet ⟨"groups", false⟩ { delimiter := some "/" })]

/-- The catalog that has a command for an address only. -/
def addressDocument : Catalog.Document :=
  ⟨"1.0", [], [⟨"visit", none, addressSchema⟩]⟩

/-- Addresses with two delimiters that are not well formed behind one that is. -/
def brokenSchema : Schema :=
  .array ⟨"addresses", true⟩ (.object ⟨"address", true⟩
    [("path", .string ⟨"path", true⟩ { delimiter := some "\\." }),
      ("groups", .stringSet ⟨"groups", false⟩ { delimiter := some "(" }),
      ("note", .string ⟨"note", false⟩ { delimiter := some "[" })]) {}

theorem checkDelimiters_exact_and_sufficient_address :
    (addressSchema.checkDelimiters = .ok () ∧ addressSchema.Everywhere Schema.WellFormedDelimiter ∧
      ∀ t, Unbroken .empty (Dialogue.constructTurn .empty addressSchema) t) ∧
    (brokenSchema.checkDelimiters = .error ⟨"("⟩ ∧ ¬ WellFormedPattern "(") ∧
    ∃ catalog, Catalog.ofText .json addressDocument.text = .ok catalog ∧ catalog.names = ["visit"] ∧
      ∀ t, ¬ Breaks catalog "> " t := by
  have hcheck : addressSchema.checkDelimiters = .ok () := by decide +kernel
  have hbroken : brokenSchema.checkDelimiters = .error ⟨"("⟩ := by decide +kernel
  have hparse : Catalog.Document.parse addressDocument.text = .ok addressDocument :=
    Catalog.Document.parse_text (by decide)
  have hadmit : Catalog.checkCommands [] addressDocument.commands = .ok () := by decide +kernel
  have hload : Catalog.ofText .json addressDocument.text =
      .ok (Catalog.empty.insert ⟨"visit", none, addressSchema⟩) := by
    rw [Catalog.ofText, Catalog.Document.ofText, hparse]
    change (Catalog.ofDocument addressDocument).mapError .refused = _
    rw [Catalog.ofDocument, hadmit]
    rfl
  obtain ⟨hexact, -, hsufficient, -⟩ := checkDelimiters_exact_and_sufficient addressSchema
  obtain ⟨-, hfirst, -, hsessions⟩ := checkDelimiters_exact_and_sufficient brokenSchema
  obtain ⟨_, _, _, _, hpattern⟩ := (hfirst _).mp hbroken
  refine ⟨⟨hcheck, hexact.mp hcheck, ?_⟩, ⟨hbroken, hpattern⟩, _, hload, rfl, ?_⟩
  · exact fun t => (hsufficient hcheck .empty t).1
  · exact fun t => (hsessions _ (.text hload) "> " t).1

end CommandForms.Session
