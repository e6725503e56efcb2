import Rendezvous.Proofs.Output.Findings

/-!
What a transcript records of its lines, whatever becomes of its output.

Counting, keeping findings and relaying are parts of one step, and each line may
be relayed or not.  What is recorded depends on the lines alone and, for each
role, on the lines of that role alone, however they come between those of others.
-/

set_option autoImplicit false

namespace Rendezvous

namespace Scanner

/-- A signature that occurs in a text, and none of those before it does. -/
def First (scanner : Scanner) (text pattern : String) : Prop :=
  ∃ before after, scanner.signatures = before ++ pattern :: after ∧
    pattern.toList <:+: text.toList ∧ ∀ earlier ∈ before, ¬ earlier.toList <:+: text.toList

theorem match?_eq_some_iff {scanner : Scanner} {text pattern : String} :
    scanner.match? text = some pattern ↔ scanner.First text pattern := by
  simp only [match?, List.find?_eq_some_iff_append, Text.contains, Text.occurs_iff, First,
    Bool.not_eq_true', Bool.eq_false_iff, ne_eq]
  constructor
  · rintro ⟨here, before, after, split, earlier⟩
    exact ⟨before, after, split, here, earlier⟩
  · rintro ⟨before, after, split, here, earlier⟩
    exact ⟨here, before, after, split, earlier⟩

theorem hasError_iff {scanner : Scanner} {text : String} :
    scanner.hasError text = true ↔
      ∃ signature ∈ scanner.signatures, signature.toList <:+: text.toList := by
  simp [hasError, match?, Text.contains, Text.occurs_iff]

/-- The lines that contain a signature are those of all roles. -/
theorem countP_hasError (scanner : Scanner) (lines : List Line) :
    (lines.countP fun line => scanner.hasError line.text) =
      (Role.all.map fun role => scanner.hitsOf role lines).sum := by
  rw [List.countP_eq_length_filter,
    Role.length_eq_sum_filter Line.role (by decide : Role.all.Nodup) fun _ _ => Role.mem_all _]
  simp only [hitsOf, List.filter_filter, List.countP_eq_length_filter]

theorem length_kept (scanner : Scanner) (limit : Nat) (lines : List Line) :
    (scanner.kept limit lines).length =
      (Role.all.map fun role => min limit (scanner.hitsOf role lines)).sum := by
  rw [Role.length_eq_sum_filter Finding.role (by decide : Role.all.Nodup) fun _ _ => Role.mem_all _]
  refine congrArg List.sum (List.map_congr_left fun role _ => ?_)
  have first := Finding.ofRole_kept scanner limit lines role
  rw [Finding.ofRole] at first
  rw [first, List.length_take, length_filterMap_finding?]

/-- The first finding of a role is its first line with a signature. -/
theorem head?_filterMap_finding? (scanner : Scanner) (role : Role) (lines : List Line) :
    ((Output.ofRole role lines).filterMap scanner.finding?).head? =
      (lines.find? fun line => line.role = role && scanner.hasError line.text).bind
        scanner.finding? := by
  induction lines with
  | nil => rfl
  | cons line lines inductionHypothesis =>
      unfold Output.ofRole at inductionHypothesis ⊢
      by_cases own : line.role = role
      · rw [List.filter_cons_of_pos (by simpa using own), List.filterMap_cons]
        cases found : scanner.finding? line with
        | none =>
            have clean : scanner.hasError line.text = false := by
              rw [← finding?_isSome, found]
              rfl
            simpa [clean] using inductionHypothesis
        | some finding =>
            have hit : scanner.hasError line.text = true := by
              rw [← finding?_isSome, found]
              rfl
            simp [own, hit, found]
      · simpa [own] using inductionHypothesis

end Scanner

/-- A line that a transcript is given. -/
structure Observation where
  line : Line
  /-- Whether the line is to be relayed. -/
  relaying : Bool
  /-- Whether the output can be written at that time. -/
  writable : Bool
  deriving DecidableEq, Repr

namespace Observation

def lines (observations : List Observation) : List Line :=
  observations.map Observation.line

/-- A line, and whether it is to be relayed, but not whether that works. -/
def request (observation : Observation) : Line × Bool :=
  (observation.line, observation.relaying)

/-- What a line says, and whether it is to be relayed. -/
def heard (observation : Observation) : Transcript.Statement × Bool :=
  (Transcript.statementOf observation.line, observation.relaying)

/-- What is heard of a role, in order. -/
def heardOf (role : Role) (observations : List Observation) : List (Transcript.Statement × Bool) :=
  (observations.map heard).filter fun entry => entry.1.role = role

/-- The answers for the lines of a role, among the answers for all lines. -/
def toldOf (role : Role) (observations : List Observation) (told : List (Option String)) :
    List (Option String) :=
  ((observations.zip told).filter fun entry => entry.1.line.role = role).map Prod.snd

end Observation

namespace Transcript

/-- Observe a line at a time at which the output can be written or not. -/
def receive (transcript : Transcript) (observation : Observation) : Transcript × Option String :=
  { transcript with writable := observation.writable }.observe observation.line
    observation.relaying

/-- Observe lines one after another; also tells the signature that each of them contains. -/
def observeEach (transcript : Transcript) : List Observation → Transcript × List (Option String)
  | [] => (transcript, [])
  | observation :: rest =>
      let received := transcript.receive observation
      let later := received.1.observeEach rest
      (later.1, received.2 :: later.2)

/-- What there is to know of some observations, and of the answers that were given. -/
structure Account (scanner : Scanner) (limit : Nat) (observations : List Observation)
    (transcript : Transcript) (told : List (Option String)) : Prop where
  told : told = (Observation.lines observations).map fun line => scanner.match? line.text
  hits : ∀ role, transcript.hits.get role = scanner.hitsOf role (Observation.lines observations)
  findings : transcript.findings.toList = scanner.kept limit (Observation.lines observations)
  total : transcript.findings.size + transcript.dropped =
    (Observation.lines observations).countP fun line => scanner.hasError line.text
  errorText : ∀ role, transcript.hasErrorText role = true ↔
    ∃ line ∈ Observation.lines observations, line.role = role ∧ scanner.hasError line.text = true
  anyErrorText : transcript.hasAnyErrorText = true ↔
    ∃ line ∈ Observation.lines observations, scanner.hasError line.text = true
  first : 1 ≤ limit → ∀ role,
    (transcript.findings.toList.find? fun finding => finding.role = role) =
      ((Observation.lines observations).find? fun line =>
        line.role = role && scanner.hasError line.text).bind scanner.finding?
  relayed : transcript.relayed = observations.countP Observation.relaying

/-- What a statement is recorded as, if it contains a signature. -/
def Statement.finding? (scanner : Scanner) (statement : Statement) : Option Finding :=
  (scanner.match? statement.text).map fun pattern =>
    ⟨statement.role, statement.stream, pattern, statement.text⟩

/-- Two transcripts differ at most in the order of the findings of different roles. -/
structure Alike (first second : Transcript) : Prop where
  hits : ∀ role, first.hits.get role = second.hits.get role
  findings : ∀ role, Finding.ofRole role first.findings.toList =
    Finding.ofRole role second.findings.toList
  perm : first.findings.toList.Perm second.findings.toList
  dropped : first.dropped = second.dropped
  errorText : first.hasErrorText = second.hasErrorText
  anyErrorText : first.hasAnyErrorText = second.hasAnyErrorText
  relayed : first.relayed = second.relayed

variable {scanner : Scanner} {limit : Nat} {transcript : Transcript}

theorem receive_setup (transcript : Transcript) (observation : Observation) :
    transcript.SameSetup (transcript.receive observation).1 :=
  have same : transcript.SameSetup { transcript with writable := observation.writable } :=
    ⟨rfl, rfl, rfl⟩
  same.trans (observe_setup _ observation.line observation.relaying)

theorem receive_relayed (transcript : Transcript) (observation : Observation) :
    (transcript.receive observation).1.relayed =
      transcript.relayed + if observation.relaying then 1 else 0 :=
  observe_relayed { transcript with writable := observation.writable } _ _

/-- What is recorded does not depend on whether the output can be written. -/
theorem Recorded.receive {lines : List Line} (recorded : transcript.Recorded lines)
    (observation : Observation) :
    (transcript.receive observation).1.Recorded (lines ++ [observation.line]) :=
  have still : { transcript with writable := observation.writable }.Recorded lines :=
    ⟨recorded.hits, recorded.findings⟩
  still.observe observation.line observation.relaying

theorem observeEach_setup (transcript : Transcript) (observations : List Observation) :
    transcript.SameSetup (transcript.observeEach observations).1 := by
  induction observations generalizing transcript with
  | nil => exact .refl transcript
  | cons observation rest inductionHypothesis =>
      exact (receive_setup transcript observation).trans (inductionHypothesis _)

theorem observeEach_told (transcript : Transcript) (observations : List Observation) :
    (transcript.observeEach observations).2 =
      (Observation.lines observations).map fun line => transcript.scanner.match? line.text := by
  induction observations generalizing transcript with
  | nil => rfl
  | cons observation rest inductionHypothesis =>
      have later := inductionHypothesis (transcript.receive observation).1
      rw [(receive_setup transcript observation).scanner] at later
      exact congrArg₂ List.cons rfl later

theorem observeEach_relayed (transcript : Transcript) (observations : List Observation) :
    (transcript.observeEach observations).1.relayed =
      transcript.relayed + observations.countP Observation.relaying := by
  induction observations generalizing transcript with
  | nil => rfl
  | cons observation rest inductionHypothesis =>
      refine (inductionHypothesis _).trans ?_
      rw [receive_relayed, List.countP_cons, Nat.add_assoc, Nat.add_comm (ite _ _ _)]

theorem Recorded.observeEach {earlier : List Line} (recorded : transcript.Recorded earlier)
    (observations : List Observation) :
    (transcript.observeEach observations).1.Recorded
      (earlier ++ Observation.lines observations) := by
  induction observations generalizing transcript earlier with
  | nil => simpa [Transcript.observeEach, Observation.lines] using recorded
  | cons observation rest inductionHypothesis =>
      have later := inductionHypothesis (recorded.receive observation)
      rwa [List.append_assoc] at later

theorem dropped_eq_sum (transcript : Transcript) :
    transcript.dropped =
      (Role.all.map fun role => transcript.hits.get role - transcript.limit).sum := by
  simp only [dropped, Role.all, List.foldl_cons, List.foldl_nil, List.map_cons, List.map_nil,
    List.sum_cons, List.sum_nil]
  omega

theorem size_findings_add_dropped {lines : List Line} (recorded : transcript.Recorded lines) :
    transcript.findings.size + transcript.dropped =
      lines.countP fun line => transcript.scanner.hasError line.text := by
  rw [← Array.length_toList, recorded.findings, Scanner.length_kept, dropped_eq_sum,
    Scanner.countP_hasError]
  simp only [recorded.hits, Role.all, List.map_cons, List.map_nil, List.sum_cons, List.sum_nil]
  omega

theorem hasErrorText_iff_exists {lines : List Line} (recorded : transcript.Recorded lines)
    (role : Role) : transcript.hasErrorText role = true ↔
      ∃ line ∈ lines, line.role = role ∧ transcript.scanner.hasError line.text = true := by
  rw [hasErrorText_iff, recorded.hits, Scanner.hitsOf, List.countP_pos_iff]
  simp only [Bool.and_eq_true, decide_eq_true_eq]

theorem hasAnyErrorText_iff_exists {lines : List Line} (recorded : transcript.Recorded lines) :
    transcript.hasAnyErrorText = true ↔
      ∃ line ∈ lines, transcript.scanner.hasError line.text = true := by
  simp only [hasAnyErrorText, List.any_eq_true, hasErrorText_iff_exists recorded]
  constructor
  · rintro ⟨role, -, line, place, -, hit⟩
    exact ⟨line, place, hit⟩
  · rintro ⟨line, place, hit⟩
    exact ⟨line.role, Role.mem_all _, line, place, rfl, hit⟩

theorem find?_findings {lines : List Line} (recorded : transcript.Recorded lines)
    (some : 1 ≤ transcript.limit) (role : Role) :
    (transcript.findings.toList.find? fun finding => finding.role = role) =
      (lines.find? fun line => line.role = role && transcript.scanner.hasError line.text).bind
        transcript.scanner.finding? := by
  rw [← List.head?_filter, ← Finding.ofRole, recorded.findings, Finding.ofRole_kept,
    List.head?_take, if_neg (by omega), Scanner.head?_filterMap_finding?]

theorem start_account (scanner : Scanner) (quiet : Bool) (limit : Nat)
    (observations : List Observation) :
    Account scanner limit observations ((start scanner quiet limit).observeEach observations).1
      ((start scanner quiet limit).observeEach observations).2 := by
  have recorded := (start_unused scanner quiet limit).recorded.observeEach observations
  obtain ⟨scanning, -, limited⟩ := observeEach_setup (start scanner quiet limit) observations
  have relayed := observeEach_relayed (start scanner quiet limit) observations
  have told := observeEach_told (start scanner quiet limit) observations
  -- the scanner and the limit that the transcript has are those that it was started with
  generalize (start scanner quiet limit).observeEach observations = after at *
  obtain ⟨transcript, answers⟩ := after
  dsimp only [start] at scanning limited
  subst scanning limited
  exact {
    told
    hits := recorded.hits
    findings := recorded.findings
    total := size_findings_add_dropped recorded
    errorText := hasErrorText_iff_exists recorded
    anyErrorText := hasAnyErrorText_iff_exists recorded
    first := find?_findings recorded
    relayed := relayed.trans (Nat.zero_add _) }

/-- The findings of a role depend on what is heard of that role. -/
theorem filterMap_heardOf (scanner : Scanner) (role : Role) (observations : List Observation) :
    (Output.ofRole role (Observation.lines observations)).filterMap scanner.finding? =
      (Observation.heardOf role observations).filterMap fun entry => entry.1.finding? scanner := by
  simp only [Output.ofRole, Observation.lines, Observation.heardOf, List.filter_map,
    List.filterMap_map]
  rfl

/-- The answers for a role depend on what is heard of that role. -/
theorem toldOf_lines (scanner : Scanner) (role : Role) (observations : List Observation) :
    Observation.toldOf role observations
        ((Observation.lines observations).map fun line => scanner.match? line.text) =
      (Observation.heardOf role observations).map fun entry => scanner.match? entry.1.text := by
  unfold Observation.toldOf Observation.lines Observation.heardOf
  induction observations with
  | nil => rfl
  | cons observation rest inductionHypothesis =>
      have heard : observation.heard.1 = statementOf observation.line := rfl
      by_cases own : observation.line.role = role <;>
        simpa [own, heard, statementOf] using inductionHypothesis

theorem hitsOf_congr {observations others : List Observation} {role : Role}
    (same : Observation.heardOf role observations = Observation.heardOf role others) :
    scanner.hitsOf role (Observation.lines observations) =
      scanner.hitsOf role (Observation.lines others) := by
  rw [← Scanner.length_filterMap_finding?, ← Scanner.length_filterMap_finding?, filterMap_heardOf,
    filterMap_heardOf, same]

/-- Transcripts of which the same is heard for each role are alike. -/
theorem Account.alike {observations others : List Observation} {first second : Transcript}
    {told answers : List (Option String)} (account : Account scanner limit observations first told)
    (other : Account scanner limit others second answers)
    (same : ∀ role, Observation.heardOf role observations = Observation.heardOf role others) :
    Alike first second := by
  have hits : ∀ role, first.hits.get role = second.hits.get role := fun role => by
    rw [account.hits, other.hits, hitsOf_congr (same role)]
  have findings : ∀ role, Finding.ofRole role first.findings.toList =
      Finding.ofRole role second.findings.toList := fun role => by
    rw [account.findings, other.findings, Finding.ofRole_kept, Finding.ofRole_kept,
      filterMap_heardOf, filterMap_heardOf, same]
  have perm := Role.perm_of_filter_eq Finding.role findings
  -- what is dropped is not looked at, it is what is left of the total
  have dropped : first.dropped = second.dropped := by
    have kept : first.findings.size = second.findings.size := perm.length_eq
    have hit : first.findings.size + first.dropped = second.findings.size + second.dropped := by
      rw [account.total, other.total, Scanner.countP_hasError, Scanner.countP_hasError]
      simp only [hitsOf_congr (same _)]
    omega
  have relayed : first.relayed = second.relayed := by
    have heard : (observations.map Observation.heard).Perm (others.map Observation.heard) :=
      Role.perm_of_filter_eq (fun entry : Statement × Bool => entry.1.role) same
    have counted : ∀ observations : List Observation, observations.countP Observation.relaying =
        (observations.map Observation.heard).countP Prod.snd := fun observations => by
      rw [List.countP_map]
      rfl
    rw [account.relayed, other.relayed, counted, counted, heard.countP_eq]
  have errorText : first.hasErrorText = second.hasErrorText := by
    funext role
    rw [Bool.eq_iff_iff, hasErrorText_iff, hasErrorText_iff, hits]
  have anyErrorText : first.hasAnyErrorText = second.hasAnyErrorText := by
    rw [Bool.eq_iff_iff, hasAnyErrorText_iff, hasAnyErrorText_iff]
    simp only [hits]
  exact { hits, findings, perm, dropped, errorText, anyErrorText, relayed }

/--
What a transcript says of the lines that it is given.  It counts the lines of each
role that contain a signature, keeps the first ones of each role up to the limit,
each with the first signature in it, and counts the others as dropped.  All of
this, the answers and the number of relayed lines are the same whether the
transcript is quiet or not and whether its output can be written or not.  They are
also the same however the lines of different roles are interleaved, except for the
order of findings of different roles.
-/
theorem observeEach_accounts (scanner : Scanner) (limit : Nat) (observations : List Observation) :
    let after := fun quiet observations => (start scanner quiet limit).observeEach observations
    (∀ text pattern, scanner.match? text = some pattern ↔ scanner.First text pattern) ∧
    (∀ text, scanner.hasError text = true ↔
      ∃ signature ∈ scanner.signatures, signature.toList <:+: text.toList) ∧
    (∀ quiet, Account scanner limit observations (after quiet observations).1
      (after quiet observations).2) ∧
    (∀ others, observations.map Observation.request = others.map Observation.request →
      ∀ quiet otherwise,
        Alike (after quiet observations).1 (after otherwise others).1 ∧
        (after quiet observations).1.findings = (after otherwise others).1.findings ∧
        (after quiet observations).2 = (after otherwise others).2) ∧
    ∀ others,
      (∀ role, Observation.heardOf role observations = Observation.heardOf role others) →
      ∀ quiet otherwise,
        Alike (after quiet observations).1 (after otherwise others).1 ∧
        ∀ role, Observation.toldOf role observations (after quiet observations).2 =
          Observation.toldOf role others (after otherwise others).2 := by
  intro after
  have account : ∀ quiet observations, Account scanner limit observations
      (after quiet observations).1 (after quiet observations).2 :=
    fun quiet => start_account scanner quiet limit
  refine ⟨fun _ _ => Scanner.match?_eq_some_iff, fun _ => Scanner.hasError_iff,
    fun quiet => account quiet observations, fun others same quiet otherwise => ?_,
    fun others same quiet otherwise => ?_⟩
  · have heard : observations.map Observation.heard = others.map Observation.heard := by
      have again := congrArg (List.map fun request => (statementOf request.1, request.2)) same
      rwa [List.map_map, List.map_map] at again
    have lines : Observation.lines observations = Observation.lines others := by
      have again := congrArg (List.map Prod.fst) same
      rwa [List.map_map, List.map_map] at again
    refine ⟨(account quiet observations).alike (account otherwise others) fun role => ?_, ?_, ?_⟩
    · rw [Observation.heardOf, heard, Observation.heardOf]
    · rw [← Array.toList_inj, (account quiet observations).findings,
        (account otherwise others).findings, lines]
    · rw [(account quiet observations).told, (account otherwise others).told, lines]
  · refine ⟨(account quiet observations).alike (account otherwise others) same, fun role => ?_⟩
    rw [(account quiet observations).told, (account otherwise others).told, toldOf_lines,
      toldOf_lines, same]

/-- A client that fails twice, a line of the server, and an output that is closed at the end. -/
def failing : List Observation :=
  [⟨⟨0, .client, .stdout, "FAILED"⟩, true, true⟩,
    ⟨⟨1, .client, .stderr, "ERROR: FAILED"⟩, false, true⟩,
    ⟨⟨2, .server, .stdout, "ERROR: late"⟩, true, false⟩]

/-- The same lines with an output that stays open. -/
def failingOpen : List Observation :=
  failing.map fun observation => { observation with writable := true }

/-- The same lines, but that of the server comes first. -/
def failingLate : List Observation :=
  [⟨⟨0, .server, .stdout, "ERROR: late"⟩, true, true⟩,
    ⟨⟨1, .client, .stdout, "FAILED"⟩, true, true⟩,
    ⟨⟨2, .client, .stderr, "ERROR: FAILED"⟩, false, true⟩]

theorem failing_accounts :
    failing.map Observation.request = failingOpen.map Observation.request ∧
    (∀ role, Observation.heardOf role failing = Observation.heardOf role failingLate) ∧
    let after := fun quiet observations => (start .builtIn quiet 1).observeEach observations
    (after true failing).1.findings.toList =
      [⟨.client, .stdout, "FAILED", "FAILED"⟩, ⟨.server, .stdout, "ERROR:", "ERROR: late"⟩] ∧
    (after true failing).1.findings.size + (after true failing).1.dropped = 3 ∧
    ((after true failing).1.findings.toList.find? fun finding => finding.role = .client) =
      some ⟨.client, .stdout, "FAILED", "FAILED"⟩ ∧
    (after true failing).1.findings = (after false failingOpen).1.findings ∧
    Alike (after true failing).1 (after false failingLate).1 := by
  have same : failing.map Observation.request = failingOpen.map Observation.request := by decide
  have heard : ∀ role, Observation.heardOf role failing = Observation.heardOf role failingLate := by
    intro role
    cases role <;> decide
  obtain ⟨-, -, account, opened, late⟩ := observeEach_accounts .builtIn 1 failing
  refine ⟨same, heard, (account true).findings.trans (by decide +kernel),
    (account true).total.trans (by decide +kernel),
    ((account true).first (Nat.le_refl 1) .client).trans (by decide +kernel),
    (opened _ same true false).2.1, (late _ heard true false).1⟩

end Transcript

end Rendezvous
