import Mathlib.Algebra.Ring.Parity
import SimplexReplay.Proofs.Run.Solved

/-!
# What a run records

A run that nothing breaks records two steps for each pivot, before and after it, and at most one
step where it ends; a solve records its start before them and its solution after them.  So each
recorded step is known from its place: it shows the point where the run was at that moment.  This
holds over scalars of any kind.
-/

namespace SimplexReplay

variable {α : Type} [Scalar α] {m n : Nat}

/-- A run in this setting goes from the point to the next one by the exchange and records it. -/
structure Exchange.Links (exchange : Exchange α m n) (setting : Setting α)
    (point next : Point α m n) : Prop where
  chosen : point.tableau.choice setting.tolerance setting.rule =
    .ok (.pivot exchange.row exchange.column)
  next_eq : next = point.afterPivot exchange.row exchange.column
  entering_eq : setting.nameText exchange.column.val = .ok exchange.entering
  basic_eq : point.basis[exchange.row.val]? = some exchange.basic
  leaving_eq : setting.nameText exchange.basic = .ok exchange.leaving
  ratios_eq : exchange.ratios =
    point.tableau.ratios exchange.column.castSucc setting.tolerance
  element_eq : exchange.element =
    point.tableau.body exchange.row exchange.column.castSucc
  reducedCost_eq : exchange.reducedCost = point.tableau.reducedCost exchange.column

namespace Point

theorem links_of_exchange {point : Point α m n} {setting : Setting α} {row : Fin m}
    {column : Fin n} {exchange : Exchange α m n}
    (chosen : point.tableau.choice setting.tolerance setting.rule = .ok (.pivot row column))
    (recorded : point.exchange setting row column = .ok exchange) :
    exchange.Links setting point (point.afterPivot row column) := by
  obtain ⟨basic, entering, leaving, enteringEq, listed, leavingEq, rfl⟩ :=
    exchange_eq_ok_iff.mp recorded
  exact ⟨chosen, rfl, enteringEq, listed, leavingEq, rfl, rfl, rfl⟩

theorem eq_afterPivot_of_pivot? {point next : Point α m n} {row : Fin m} {column : Fin n}
    (pivoted : point.pivot? row column = .ok next) : next = point.afterPivot row column := by
  cases zero : point.tableau.entry row.succ column.castSucc == 0 with
  | true => simp [pivot?, Tableau.pivot?, zero, bind, Except.bind] at pivoted
  | false =>
      simp only [pivot?, Tableau.pivot?, zero, bind, Except.bind, pure, Except.pure,
        Bool.false_eq_true, if_false, Except.ok.injEq] at pivoted
      exact pivoted.symm

end Point

theorem run_trail_of_unbroken {setting : Setting α} (allowed made : Nat) {point : Point α m n}
    (unbroken : ∀ fault, (run setting allowed made point).ending ≠ .broken fault) :
    Trail setting allowed made point (run setting allowed made point) := by
  -- The branches that break a run cannot be taken; the others are the ways in which trails go on.
  fun_induction run setting allowed made point with
  | case1 allowed made point fault chosen => exact absurd rfl (unbroken fault)
  | case2 allowed made point chosen => exact Trail.finish chosen
  | case3 allowed made point column chosen fault named => exact absurd rfl (unbroken fault)
  | case4 allowed made point column chosen entering named ratios =>
      exact Trail.unlimited column entering chosen named
  | case5 made point row column chosen => exact Trail.capped row column chosen
  | case6 made point row column chosen allowed fault recorded =>
      exact absurd rfl (unbroken fault)
  | case7 made point row column chosen allowed exchange recorded before fault pivoted =>
      exact absurd rfl (unbroken fault)
  | case8 made point row column chosen allowed exchange recorded before next pivoted after
      course ih =>
      obtain rfl := Point.eq_afterPivot_of_pivot? pivoted
      exact Trail.pivot row column exchange chosen recorded (ih unbroken)

/-- The steps begin with two steps for each pivot on a path of points, made after some others. -/
structure Records (setting : Setting α) (made count : Nat) (path : Nat → Point α m n)
    (steps : List (Step α m n)) : Prop where
  long : 2 * count ≤ steps.length
  turn : ∀ moment < count, ∃ exchange : Exchange α m n,
    exchange.Links setting (path moment) (path (moment + 1)) ∧
    steps[2 * moment]? = some ((path moment).step (made + moment + 1) (.pivot exchange)) ∧
    steps[2 * moment + 1]? =
      some ((path (moment + 1)).step (made + moment + 1) (.afterPivot exchange))

namespace Records

variable {setting : Setting α} {made count : Nat} {path : Nat → Point α m n}
  {steps : List (Step α m n)}

theorem zero (setting : Setting α) (made : Nat) (path : Nat → Point α m n)
    (steps : List (Step α m n)) : Records setting made 0 path steps :=
  ⟨Nat.zero_le _, fun _ inside => absurd inside (Nat.not_lt_zero _)⟩

theorem cons {point : Point α m n} {exchange : Exchange α m n}
    (links : exchange.Links setting point (path 0))
    (records : Records setting (made + 1) count path steps) :
    Records setting made (count + 1) (fun moment => moment.casesOn point path)
      (point.step (made + 1) (.pivot exchange) ::
        (path 0).step (made + 1) (.afterPivot exchange) :: steps) where
  long := by
    have long := records.long
    simp only [List.length_cons]
    omega
  turn := by
    intro moment inside
    cases moment with
    | zero => exact ⟨exchange, links, rfl, rfl⟩
    | succ moment =>
        obtain ⟨next, nextLinks, before, after⟩ :=
          records.turn moment (Nat.lt_of_succ_lt_succ inside)
        have shifted : made + (moment + 1) + 1 = made + 1 + moment + 1 := by omega
        refine ⟨next, nextLinks, ?_, ?_⟩
        · rw [shifted]
          exact before
        · rw [shifted]
          exact after

theorem append (records : Records setting made count path steps) (more : List (Step α m n)) :
    Records setting made count path (steps ++ more) where
  long := by
    have long := records.long
    rw [List.length_append]
    omega
  turn := by
    intro moment inside
    have long := records.long
    obtain ⟨exchange, links, before, after⟩ := records.turn moment inside
    refine ⟨exchange, links, ?_, ?_⟩
    · rw [List.getElem?_append_left (by omega), before]
    · rw [List.getElem?_append_left (by omega), after]

theorem leads (records : Records setting made count path steps) {moment : Nat}
    (inside : moment < count) : (path moment).Leads setting (path (moment + 1)) := by
  obtain ⟨exchange, links, -, -⟩ := records.turn moment inside
  exact ⟨exchange.row, exchange.column, links.chosen, links.next_eq⟩

end Records

/-- What is recorded at the point where a run ends, with the given steps for its solution. -/
inductive Closing (setting : Setting α) (point : Point α m n) (pivots : Nat)
    (solved : List (Step α m n)) : Ending → List (Step α m n) → Prop
  | optimal : Closing setting point pivots solved (.reached .optimal) solved
  | unbounded (column : Fin n) (entering : String)
      (named : setting.nameText column.val = .ok entering) :
      Closing setting point pivots solved (.reached .unbounded)
        [point.step (pivots + 1) (.unbounded column entering
          (point.tableau.ratios column.castSucc setting.tolerance))]
  | capped : Closing setting point pivots solved .capped []

theorem Closing.of_not_optimal {setting : Setting α} {point : Point α m n} {pivots : Nat}
    {solved steps : List (Step α m n)} {ending : Ending}
    (closes : Closing setting point pivots solved ending steps)
    (notOptimal : ending ≠ .reached .optimal) (other : List (Step α m n)) :
    Closing setting point pivots other ending steps := by
  cases closes with
  | optimal => exact absurd rfl notOptimal
  | unbounded column entering named => exact .unbounded column entering named
  | capped => exact .capped

theorem Trail.exists_records {setting : Setting α} {allowed made : Nat} {point : Point α m n}
    {course : Course α m n} (trail : Trail setting allowed made point course) :
    ∃ (count : Nat) (path : Nat → Point α m n),
      path 0 = point ∧ path count = course.last ∧ course.pivots = made + count ∧
        Records setting made count path course.steps ∧
        Closing setting course.last course.pivots [] course.ending
          (course.steps.drop (2 * count)) := by
  induction trail with
  | @finish allowed made point chosen =>
      exact ⟨0, fun _ => point, rfl, rfl, rfl, .zero _ _ _ _, .optimal⟩
  | @unlimited allowed made point column entering chosen named =>
      exact ⟨0, fun _ => point, rfl, rfl, rfl, .zero _ _ _ _, .unbounded column entering named⟩
  | @capped made point row column chosen =>
      exact ⟨0, fun _ => point, rfl, rfl, rfl, .zero _ _ _ _, .capped⟩
  | @pivot allowed made point course row column exchange chosen recorded rest ih =>
      obtain ⟨count, path, startEq, lastEq, pivotsEq, records, closes⟩ := ih
      -- The path of the rest starts where the pivot leads; the point itself goes before it.
      have links := Point.links_of_exchange chosen recorded
      rw [← startEq] at links ⊢
      refine ⟨count + 1, _, rfl, lastEq, ?_, records.cons links, closes⟩
      rw [pivotsEq]
      omega

/-- The number of the pivot that the last step of a run belongs to: a run that ends unbounded has
begun one more pivot than it has made. -/
def Status.lastIteration (pivots : Nat) : Status → Nat
  | optimal => pivots
  | unbounded => pivots + 1

namespace Program

variable {program : Program α} {setting : Setting α}
  {course : Course α program.constraintCount program.columnCount}
  {path : Nat → Point α program.constraintCount program.columnCount}

def solutionStep (course : Course α program.constraintCount program.columnCount)
    (solution : Solution α) : Step α program.constraintCount program.columnCount :=
  course.last.step course.pivots (.optimal solution)

/-- A course is recorded along a path of points: first its start, then two steps for each pivot,
then where it ends. -/
structure Chronicle (program : Program α) (setting : Setting α)
    (course : Course α program.constraintCount program.columnCount)
    (path : Nat → Point α program.constraintCount program.columnCount) : Prop where
  start_eq : path 0 = program.start
  last_eq : path course.pivots = course.last
  head_eq : course.steps[0]? = some (program.start.step 0 .initial)
  records : Records setting 0 course.pivots path course.steps.tail
  closes : ∃ solution, Closing setting course.last course.pivots [solutionStep course solution]
    course.ending (course.steps.tail.drop (2 * course.pivots))

theorem course_eq_of_recordSolution {tolerance : α} {rule : PivotRule} {cap : Nat}
    {whole : Course α program.constraintCount program.columnCount}
    (recorded : program.recordSolution
      (run (program.setting tolerance rule) cap 0 program.start) = whole) :
    program.course tolerance rule cap =
      { whole with steps := program.start.step 0 .initial :: whole.steps } := by
  rw [Program.course, recorded]

theorem ending_course_of_broken {tolerance : α} {rule : PivotRule} {cap : Nat} {fault : Fault}
    (broken : (run (program.setting tolerance rule) cap 0 program.start).ending = .broken fault) :
    (program.course tolerance rule cap).ending = .broken fault := by
  have notOptimal : (run (program.setting tolerance rule) cap 0 program.start).ending ≠
      .reached .optimal := by
    rw [broken]
    exact nofun
  simp only [Program.course, recordSolution_of_not_optimal notOptimal, broken]

/-- A course that nothing breaks is recorded along a path. -/
theorem exists_chronicle (program : Program α) (tolerance : α) (rule : PivotRule) (cap : Nat)
    (unbroken : ∀ fault, (program.course tolerance rule cap).ending ≠ .broken fault) :
    ∃ path, program.Chronicle (program.setting tolerance rule)
      (program.course tolerance rule cap) path := by
  have trail := run_trail_of_unbroken cap 0
    fun fault broken => unbroken fault (ending_course_of_broken broken)
  obtain ⟨count, path, startEq, lastEq, pivotsEq, records, closes⟩ := trail.exists_records
  rw [Nat.zero_add] at pivotsEq
  subst pivotsEq
  refine ⟨path, ?_⟩
  by_cases optimal :
      (run (program.setting tolerance rule) cap 0 program.start).ending = .reached .optimal
  · cases solved : program.solutionOf (run (program.setting tolerance rule) cap 0 program.start)
      with
    | error fault =>
        refine absurd ?_ (unbroken fault)
        simp only [Program.course, recordSolution, optimal, solved]
    | ok solution =>
        rw [optimal] at closes
        rw [course_eq_of_recordSolution (recordSolution_of_optimal optimal solved)]
        refine ⟨startEq, lastEq, rfl, records.append _, solution, ?_⟩
        rw [List.tail_cons, List.drop_append_of_le_length records.long]
        generalize List.drop _ _ = rest at closes
        cases closes
        rw [optimal]
        exact .optimal
  · rw [course_eq_of_recordSolution (recordSolution_of_not_optimal optimal)]
    exact ⟨startEq, lastEq, rfl, records, ⟨[], 0⟩, closes.of_not_optimal optimal _⟩

/-- The steps that can stand at a place of a course recorded along a path. -/
inductive StepAt (program : Program α) (setting : Setting α)
    (course : Course α program.constraintCount program.columnCount)
    (path : Nat → Point α program.constraintCount program.columnCount) :
    Nat → Step α program.constraintCount program.columnCount → Prop
  | initial : StepAt program setting course path 0 ((path 0).step 0 .initial)
  | before {moment : Nat} (inside : moment < course.pivots)
      {exchange : Exchange α program.constraintCount program.columnCount}
      (links : exchange.Links setting (path moment) (path (moment + 1))) :
      StepAt program setting course path (2 * moment + 1)
        ((path moment).step (moment + 1) (.pivot exchange))
  | after {moment : Nat} (inside : moment < course.pivots)
      {exchange : Exchange α program.constraintCount program.columnCount}
      (links : exchange.Links setting (path moment) (path (moment + 1))) :
      StepAt program setting course path (2 * moment + 2)
        ((path (moment + 1)).step (moment + 1) (.afterPivot exchange))
  | optimal (solution : Solution α) :
      StepAt program setting course path (2 * course.pivots + 1)
        ((path course.pivots).step course.pivots (.optimal solution))
  | unbounded (column : Fin program.columnCount) (entering : String)
      (ratios : Vector (Option α) program.constraintCount) :
      StepAt program setting course path (2 * course.pivots + 1)
        ((path course.pivots).step (course.pivots + 1) (.unbounded column entering ratios))

namespace Chronicle

variable (chronicle : program.Chronicle setting course path)
include chronicle

theorem stepAt {index : Nat} {step : Step α program.constraintCount program.columnCount}
    (found : course.steps[index]? = some step) :
    StepAt program setting course path index step := by
  cases index with
  | zero =>
      rw [chronicle.head_eq, ← chronicle.start_eq, Option.some.injEq] at found
      exact found ▸ .initial
  | succ index =>
      rw [← List.getElem?_tail] at found
      by_cases inside : index < 2 * course.pivots
      · obtain ⟨moment, even | odd⟩ := Nat.even_or_odd' index
        · obtain ⟨exchange, links, before, -⟩ := chronicle.records.turn moment (by omega)
          rw [even, before, Option.some.injEq, Nat.zero_add] at found
          rw [even, ← found]
          exact .before (by omega) links
        · obtain ⟨exchange, links, -, after⟩ := chronicle.records.turn moment (by omega)
          rw [odd, after, Option.some.injEq, Nat.zero_add] at found
          rw [odd, ← found]
          exact .after (by omega) links
      · obtain ⟨offset, rfl⟩ := Nat.exists_eq_add_of_le (Nat.not_lt.mp inside)
        obtain ⟨solution, closes⟩ := chronicle.closes
        rw [← List.getElem?_drop] at found
        generalize course.steps.tail.drop (2 * course.pivots) = closing at found closes
        generalize course.ending = ending at closes
        cases offset with
        | zero =>
            rw [Nat.add_zero]
            cases closes with
            | optimal =>
                simp only [List.getElem?_cons_zero, Option.some.injEq] at found
                rw [← found, solutionStep, ← chronicle.last_eq]
                exact .optimal solution
            | unbounded column entering named =>
                simp only [List.getElem?_cons_zero, Option.some.injEq] at found
                rw [← found, ← chronicle.last_eq]
                exact .unbounded column entering _
            | capped => simp at found
        | succ offset => cases closes <;> simp at found

theorem reaches {moment : Nat} (inside : moment ≤ course.pivots) :
    program.start.Reaches setting (path moment) := by
  induction moment with
  | zero =>
      rw [chronicle.start_eq]
  | succ moment ih => exact (ih (le_of_lt inside)).tail (chronicle.records.leads inside)

theorem point_eq {index : Nat} {step : Step α program.constraintCount program.columnCount}
    (found : course.steps[index]? = some step) :
    step.point = path (index / 2) ∧ index / 2 ≤ course.pivots := by
  cases chronicle.stepAt found with
  | initial => exact ⟨rfl, Nat.zero_le _⟩
  | @before moment inside exchange links =>
      have half : (2 * moment + 1) / 2 = moment := by omega
      rw [half]
      exact ⟨rfl, le_of_lt inside⟩
  | @after moment inside exchange links =>
      have half : (2 * moment + 2) / 2 = moment + 1 := by omega
      rw [half]
      exact ⟨rfl, inside⟩
  | optimal solution =>
      have half : (2 * course.pivots + 1) / 2 = course.pivots := by omega
      rw [half]
      exact ⟨rfl, le_refl _⟩
  | unbounded column entering ratios =>
      have half : (2 * course.pivots + 1) / 2 = course.pivots := by omega
      rw [half]
      exact ⟨rfl, le_refl _⟩

theorem links_of_pivot {index : Nat} {step : Step α program.constraintCount program.columnCount}
    (found : course.steps[index]? = some step)
    {exchange : Exchange α program.constraintCount program.columnCount}
    (announced : step.event = .pivot exchange) :
    index = 2 * (index / 2) + 1 ∧ index / 2 < course.pivots ∧
      exchange.Links setting (path (index / 2)) (path (index / 2 + 1)) := by
  cases chronicle.stepAt found with
  | @before moment inside other links =>
      obtain rfl : other = exchange := Event.pivot.inj announced
      have half : (2 * moment + 1) / 2 = moment := by omega
      rw [half]
      exact ⟨rfl, inside, links⟩
  | initial | after inside links | optimal solution | unbounded column entering ratios =>
      exact nomatch announced

theorem getElem?_next_of_pivot {index : Nat}
    {step : Step α program.constraintCount program.columnCount}
    (found : course.steps[index]? = some step)
    {exchange : Exchange α program.constraintCount program.columnCount}
    (announced : step.event = .pivot exchange) :
    course.steps[index + 1]? =
      some ((path (index / 2 + 1)).step (index / 2 + 1) (.afterPivot exchange)) := by
  obtain ⟨indexEq, inside, -⟩ := chronicle.links_of_pivot found announced
  obtain ⟨other, -, before, after⟩ := chronicle.records.turn (index / 2) inside
  rw [List.getElem?_tail, ← indexEq, found, Option.some.injEq] at before
  rw [before] at announced
  obtain rfl : other = exchange := Event.pivot.inj announced
  rw [List.getElem?_tail, ← indexEq, Nat.zero_add] at after
  exact after

theorem exists_arrival {moment : Nat} (inside : moment ≤ course.pivots) :
    ∃ step, course.steps[2 * moment]? = some step ∧ step.point = path moment := by
  have started := List.length_pos_of_mem (List.mem_of_getElem? chronicle.head_eq)
  have long := chronicle.records.long
  rw [List.length_tail] at long
  have found := List.getElem?_eq_getElem (show 2 * moment < course.steps.length by omega)
  obtain ⟨pointEq, -⟩ := chronicle.point_eq found
  rw [Nat.mul_div_cancel_left moment Nat.two_pos] at pointEq
  exact ⟨_, found, pointEq⟩

theorem exists_closing_of_reached {status : Status} (reached : course.ending = .reached status) :
    ∃ step : Step α program.constraintCount program.columnCount,
      course.steps.tail.drop (2 * course.pivots) = [step] ∧ step.event.kind = status.word ∧
        step.iteration = status.lastIteration course.pivots ∧ step.point = course.last := by
  obtain ⟨solution, closes⟩ := chronicle.closes
  rw [reached] at closes
  generalize course.steps.tail.drop (2 * course.pivots) = closing at closes ⊢
  cases closes with
  | optimal => exact ⟨_, rfl, rfl, rfl, rfl⟩
  | unbounded column entering named => exact ⟨_, rfl, rfl, rfl, rfl⟩

theorem length_steps_of_reached {status : Status} (reached : course.ending = .reached status) :
    course.steps.length = 2 * course.pivots + 2 := by
  obtain ⟨step, closing, -⟩ := chronicle.exists_closing_of_reached reached
  have dropped := congrArg List.length closing
  have long := chronicle.records.long
  have started := List.length_pos_of_mem (List.mem_of_getElem? chronicle.head_eq)
  rw [List.length_drop, List.length_singleton] at dropped
  rw [List.length_tail] at dropped long
  omega

theorem exists_last_of_reached {status : Status} (reached : course.ending = .reached status) :
    ∃ step, course.steps[2 * course.pivots + 1]? = some step ∧
      step.event.kind = status.word ∧ step.iteration = status.lastIteration course.pivots ∧
        step.point = course.last := by
  obtain ⟨step, closing, shown⟩ := chronicle.exists_closing_of_reached reached
  refine ⟨step, ?_, shown⟩
  have first := congrArg (fun steps => steps[0]?) closing
  simp only [List.getElem?_drop, List.getElem?_tail] at first
  exact first

end Chronicle

end Program

end SimplexReplay
