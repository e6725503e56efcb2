import Rendezvous.Proofs.Console.Resolution
import Rendezvous.Proofs.Text.Cutting

/-!
What a plan prints.

For each role a plan prints a heading and, below it, a line for each of its variables.
As long as nothing that is shown holds a newline itself, the variables of a role can be
read again from what was printed.
-/

set_option autoImplicit false

namespace Rendezvous

/-- A name that an environment can hold is found in front of the first `=`. -/
theorem Variables.readPair_append {name : String} (key : IsKey name) (value : String) :
    readPair (name ++ "=" ++ value) = .ok (name, value) := by
  obtain ⟨visible, plain, -⟩ := key
  have cut := Text.cutAt?_append_cons plain value.toList
  have chars : (name ++ "=" ++ value).toList = name.toList ++ '=' :: value.toList := by simp
  have full : name.toList ≠ [] := by simpa using visible
  rw [readPair, chars, cut]
  simp [full]

namespace Console

/-- How the line of a plan begins that shows the command line of a role. -/
def heading (colored : Bool) (role : Role) : String :=
  Style.bold.apply colored role.name ++ ": "

/-- The line of a plan that shows a variable. -/
def assignmentLine (entry : String × String) : String :=
  "  " ++ entry.1 ++ "=" ++ entry.2

/-- Read such a line: two spaces and then `KEY=VALUE`. -/
def readAssignment? (line : String) : Option (String × String) :=
  match line.toList with
  | ' ' :: ' ' :: pair => (Variables.readPair (String.ofList pair)).toOption
  | _ => none

/-- The lines of a plan that show a role: its command line and its variables. -/
def planLines (colored : Bool) (scenario : Scenario) (role : Role) (line : CommandLine) :
    List String :=
  (heading colored role ++ line.display) :: (scenario.envOf role).map assignmentLine

theorem planOf_eq (colored : Bool) (scenario : Scenario) (role : Role) (line : CommandLine) :
    planOf colored scenario role line =
      String.join ((planLines colored scenario role line).map (· ++ "\n")) := by
  rw [planOf, planLines, List.map_cons, String.join_cons, List.map_map]
  rfl

theorem readAssignment?_assignmentLine {entry : String × String} (key : Variables.IsKey entry.1) :
    readAssignment? (assignmentLine entry) = some entry := by
  have chars : (assignmentLine entry).toList =
      ' ' :: ' ' :: (entry.1 ++ "=" ++ entry.2).toList := by
    simp [assignmentLine]
  rw [readAssignment?, chars]
  simp only [String.ofList_toList, Variables.readPair_append key]
  rfl

theorem mapM_readAssignment? {env : Variables} (keys : ∀ entry ∈ env, Variables.IsKey entry.1) :
    (env.map assignmentLine).mapM readAssignment? = some env := by
  induction env with
  | nil => rfl
  | cons entry env inductionHypothesis =>
      have rest := inductionHypothesis fun later place => keys later (List.mem_cons_of_mem _ place)
      have first := readAssignment?_assignmentLine (keys entry List.mem_cons_self)
      rw [List.map_cons, List.mapM_cons, first, rest]
      rfl

/-- The lines of a plan that shows some roles with their command lines. -/
def shownLines (colored : Bool) (scenario : Scenario) (shown : List (Role × CommandLine)) :
    List String :=
  shown.flatMap fun entry => planLines colored scenario entry.1 entry.2

/-- What is printed shows roles in order; if nothing is wrong, it shows them all. -/
structure Shows (colored : Bool) (scenario : Scenario) (roles : List Role)
    (shown : List (Role × CommandLine)) (stdout : String) (code : Except Error Nat) : Prop where
  front : shown.map Prod.fst <+: roles
  lines : ∀ entry ∈ shown, scenario.commandLine entry.1 = .ok entry.2
  stdout : stdout = String.join ((shownLines colored scenario shown).map (· ++ "\n"))
  all : ∀ status, code = .ok status → shown.map Prod.fst = roles

/-- A plan shows roles until one has no command line. -/
theorem plans_shows (colored : Bool) (scenario : Scenario) (roles : List Role) :
    ∃ shown, Shows colored scenario roles shown (plans colored scenario roles).1
      (plans colored scenario roles).2 := by
  induction roles with
  | nil => exact ⟨[], List.nil_prefix, by simp, rfl, fun _ _ => rfl⟩
  | cons role roles inductionHypothesis =>
      rw [plans]
      cases built : scenario.commandLine role with
      | error cause =>
          -- the plan ends here, with an error and without the roles that come later
          refine ⟨[], List.nil_prefix, by simp, rfl, fun status ended => ?_⟩
          cases ended
      | ok line =>
          obtain ⟨shown, shows⟩ := inductionHypothesis
          refine ⟨(role, line) :: shown, ?_, ?_, ?_, fun status ended => ?_⟩
          · exact (List.prefix_cons_inj role).mpr shows.front
          · exact List.forall_mem_cons.mpr ⟨built, shows.lines⟩
          · dsimp only
            rw [shows.stdout, planOf_eq, shownLines, shownLines, List.flatMap_cons, List.map_append,
              String.join_append]
          · exact congrArg (role :: ·) (shows.all status ended)

/-- The lines of a text; what stands behind the last newline is one too. -/
def linesOf (text : String) : List String :=
  (Text.splitBy (· = '\n') text.toList).map String.ofList

def isHeading (colored : Bool) (role : Role) (line : String) : Bool :=
  (heading colored role).toList.isPrefixOf line.toList

def isAssignment (line : String) : Bool :=
  [' ', ' '].isPrefixOf line.toList

/-- The variables of a role among some lines: those below its heading. -/
def assignmentsOf? (colored : Bool) (role : Role) (lines : List String) : Option Variables :=
  match lines.dropWhile fun line => !isHeading colored role line with
  | [] => none
  | _ :: below => (below.takeWhile isAssignment).mapM readAssignment?

/-- The variables of a role, as they are read from what a plan has printed. -/
def planned? (colored : Bool) (role : Role) (stdout : String) : Option Variables :=
  assignmentsOf? colored role (linesOf stdout)

theorem linesOf_join_append {lines : List String} (plain : ∀ line ∈ lines, '\n' ∉ line.toList)
    (rest : String) :
    linesOf (String.join (lines.map (· ++ "\n")) ++ rest) = lines ++ linesOf rest := by
  rw [linesOf, Text.splitBy_join_append plain, List.map_append, List.map_map]
  simp [linesOf]

/-- A heading begins with a character that is neither a blank nor a newline. -/
theorem heading_front (colored : Bool) (role : Role) :
    ∃ first rest, (heading colored role).toList = first :: rest ∧ first ≠ ' ' ∧ first ≠ '\n' := by
  cases colored <;> cases role <;> exact ⟨_, _, rfl, by decide⟩

/-- No heading is the beginning of another one. -/
theorem role_eq_of_begins {colored : Bool} {role other : Role}
    (begins : (heading colored role).toList <+: (heading colored other).toList) : role = other := by
  revert begins
  cases colored <;> cases role <;> cases other <;> decide +kernel

/-- The heading of a role is found in front of its own command line only. -/
theorem isHeading_iff {colored : Bool} {role other : Role} {line : String} :
    isHeading colored role (heading colored other ++ line) = true ↔ role = other := by
  rw [isHeading, String.toList_append, List.isPrefixOf_iff_prefix]
  constructor
  · intro begins
    rcases List.prefix_or_prefix_of_prefix begins (List.prefix_append _ _) with shorter | longer
    · exact role_eq_of_begins shorter
    · exact (role_eq_of_begins longer).symm
  · rintro rfl
    exact List.prefix_append _ _

theorem isAssignment_assignmentLine (entry : String × String) :
    isAssignment (assignmentLine entry) = true := by
  simp [isAssignment, assignmentLine]

theorem isHeading_assignmentLine (colored : Bool) (role : Role) (entry : String × String) :
    isHeading colored role (assignmentLine entry) = false := by
  obtain ⟨first, rest, chars, visible, -⟩ := heading_front colored role
  have other : (first == ' ') = false := beq_false_of_ne visible
  simp [isHeading, assignmentLine, chars, List.isPrefixOf, other]

/-- What is printed for some roles does not begin with a variable. -/
theorem takeWhile_linesOf_shown (colored : Bool) (scenario : Scenario)
    (shown : List (Role × CommandLine)) :
    (linesOf (String.join ((shownLines colored scenario shown).map (· ++ "\n")))).takeWhile
      isAssignment = [] := by
  cases shown with
  | nil => rfl
  | cons entry shown =>
      obtain ⟨first, rest, chars, visible, plain⟩ := heading_front colored entry.1
      obtain ⟨later, text⟩ : ∃ later, (String.join ((shownLines colored scenario
          (entry :: shown)).map (· ++ "\n"))).toList = first :: later := by
        simp [shownLines, planLines, String.join_cons, chars]
      obtain ⟨piece, pieces, cut⟩ : ∃ piece pieces,
          Text.splitBy (· = '\n') (first :: later) = (first :: piece) :: pieces :=
        Text.splitBy_cons (by simpa using plain) later
      have other : (' ' == first) = false := beq_false_of_ne (Ne.symm visible)
      rw [linesOf, text, cut, List.map_cons, List.takeWhile_cons_of_neg]
      simp [isAssignment, List.isPrefixOf, other]

/-- The variables of a role are found below its heading, whatever is shown after them. -/
theorem assignmentsOf?_shown {colored : Bool} {scenario : Scenario} {role : Role}
    (line : CommandLine) {before : List (Role × CommandLine)}
    (earlier : ∀ entry ∈ before, entry.1 ≠ role) {rest : List String}
    (behind : rest.takeWhile isAssignment = []) :
    assignmentsOf? colored role
        (shownLines colored scenario (before ++ [(role, line)]) ++ rest) =
      ((scenario.envOf role).map assignmentLine).mapM readAssignment? := by
  have others : ∀ shown ∈ shownLines colored scenario before,
      (!isHeading colored role shown) = true := by
    intro shown membership
    obtain ⟨entry, place, member⟩ := List.mem_flatMap.mp membership
    rcases List.mem_cons.mp member with rfl | assigned
    · rw [Bool.not_eq_true', ← Bool.not_eq_true, isHeading_iff]
      exact (earlier entry place).symm
    · obtain ⟨pair, -, rfl⟩ := List.mem_map.mp assigned
      simp [isHeading_assignmentLine]
  have own : isHeading colored role (heading colored role ++ line.display) = true :=
    isHeading_iff.mpr rfl
  have assigned : ∀ shown ∈ (scenario.envOf role).map assignmentLine,
      isAssignment shown = true :=
    List.forall_mem_map.mpr fun entry _ => isAssignment_assignmentLine entry
  have lines : shownLines colored scenario (before ++ [(role, line)]) ++ rest =
      shownLines colored scenario before ++ (heading colored role ++ line.display) ::
        ((scenario.envOf role).map assignmentLine ++ rest) := by
    simp [shownLines, planLines]
  rw [lines, assignmentsOf?, List.dropWhile_append_of_pos others,
    List.dropWhile_cons_of_neg (by simp [own])]
  dsimp only
  rw [List.takeWhile_append_of_pos assigned, behind, List.append_nil]

end Console

/-- Nothing that a plan shows for the role holds a newline. -/
structure Scenario.OnLines (scenario : Scenario) (role : Role) : Prop where
  line : ∀ line ∈ (scenario.commandLine role).toOption, '\n' ∉ line.display.toList
  env : ∀ entry ∈ scenario.envOf role, '\n' ∉ entry.1.toList ∧ '\n' ∉ entry.2.toList

instance (scenario : Scenario) (role : Role) : Decidable (scenario.OnLines role) :=
  decidable_of_iff
    ((∀ line ∈ (scenario.commandLine role).toOption, '\n' ∉ line.display.toList) ∧
      ∀ entry ∈ scenario.envOf role, '\n' ∉ entry.1.toList ∧ '\n' ∉ entry.2.toList)
    ⟨fun both => ⟨both.1, both.2⟩, fun plain => ⟨plain.line, plain.env⟩⟩

namespace Console

theorem heading_plain (colored : Bool) (role : Role) : '\n' ∉ (heading colored role).toList := by
  cases colored <;> cases role <;> decide +kernel

theorem planLines_plain {scenario : Scenario} {role : Role} (plain : scenario.OnLines role)
    {line : CommandLine} (built : scenario.commandLine role = .ok line) (colored : Bool) :
    ∀ shown ∈ planLines colored scenario role line, '\n' ∉ shown.toList := by
  intro shown membership
  rcases List.mem_cons.mp membership with rfl | assigned
  · simp [heading_plain, plain.line line (Except.toOption_eq_some_iff.mpr built)]
  · obtain ⟨entry, place, rfl⟩ := List.mem_map.mp assigned
    obtain ⟨name, value⟩ := plain.env entry place
    simp [assignmentLine, name, value]

/-- The variables of a role can be read from a plan if it and the roles before it fit on lines. -/
theorem Shows.planned? {colored : Bool} {scenario : Scenario} {roles before after : List Role}
    {role : Role} (order : roles = before ++ role :: after) (distinct : roles.Nodup)
    {shown : List (Role × CommandLine)} {stdout : String} {status : Nat}
    (shows : Shows colored scenario roles shown stdout (.ok status))
    (plain : ∀ other ∈ before ++ [role], scenario.OnLines other)
    (keys : ∀ entry ∈ scenario.envOf role, Variables.IsKey entry.1) :
    planned? colored role stdout = some (scenario.envOf role) := by
  have all : shown.map Prod.fst = before ++ role :: after := (shows.all status rfl).trans order
  obtain ⟨front, others, rfl, rfl, rest⟩ := List.map_eq_append_iff.mp all
  obtain ⟨⟨role, line⟩, later, rfl, rfl, -⟩ := List.map_eq_cons_iff.mp rest
  dsimp only at order plain keys ⊢
  have earlier : ∀ entry ∈ front, entry.1 ≠ role := by
    rintro entry place rfl
    rw [order] at distinct
    exact (List.nodup_append.mp distinct).2.2 _ (List.mem_map_of_mem place) _
      List.mem_cons_self rfl
  have onLines : ∀ text ∈ shownLines colored scenario (front ++ [(role, line)]),
      '\n' ∉ text.toList := by
    intro text membership
    obtain ⟨entry, place, member⟩ := List.mem_flatMap.mp membership
    have active : entry.1 ∈ front.map Prod.fst ++ [role] := by
      simpa using List.mem_map_of_mem (f := Prod.fst) place
    have built : scenario.commandLine entry.1 = .ok entry.2 :=
      shows.lines entry (by rw [List.append_cons]; exact List.mem_append_left later place)
    exact planLines_plain (plain _ active) built colored text member
  have text : stdout = String.join ((shownLines colored scenario (front ++ [(role, line)])).map
      (· ++ "\n")) ++ String.join ((shownLines colored scenario later).map (· ++ "\n")) := by
    rw [shows.stdout, List.append_cons, shownLines, List.flatMap_append, List.map_append,
      String.join_append]
    rfl
  rw [Console.planned?, text, linesOf_join_append onLines,
    assignmentsOf?_shown line earlier (takeWhile_linesOf_shown colored scenario later),
    mapM_readAssignment? keys]

end Console

end Rendezvous
