import Flowchart.Proofs.Chart.Walk
import Flowchart.Proofs.Draft.Picture

/-!
# `Flowchart.Proofs.Program.Execution`: what a run of a program meets

`Stmt.execution` runs a program by its structure, without a chart.  The outcomes of its conditions
are given, one for each time a condition is evaluated, and the result is the texts of what the run
meets.  Statements are put together by what comes behind them: the course of a statement is made
from the course of the rest.

* `Stmt.course_whileLoop`: the equation of a loop, by which a loop is its condition, its body and
  the loop again.  The number of rounds in the definition does not matter, because each round takes
  an outcome.
* `Stmt.simulates`: wherever a statement stands in a chart, the walk along the chart shows what the
  run meets.  The induction is on statements, and for a loop on the outcomes that are left.
* `Chart.Depicts.walk`: the same for a whole program.
-/

set_option autoImplicit false

namespace Flowchart.Stmt

/-! ### Runs -/

/-- What a run meets from some point of a program on, when its conditions have the given
outcomes. -/
abbrev Course := List Branch → List String

/-- The text of a box that may be refused. -/
def textOf : Except Refusal Box → String
  | .ok box => box.text
  | .error _ => ""

/-- A box, and what comes behind it.  The run ends at a box that is refused. -/
def met : Except Refusal Box → (rest : Course) → Course
  | .ok box, rest => fun outcomes => box.text :: rest outcomes
  | .error _, _ => fun _ => []

/-- A condition, and what its outcome leads to.  The run stops at a condition for which there is no
outcome. -/
def decided (label : String) (yes no : Course) : Course
  | [] => [label]
  | .yes :: outcomes => label :: yes outcomes
  | .no :: outcomes => label :: no outcomes

/-- A condition that is met again each time the body is through, but not more often than `rounds`
times. -/
def repeated (label : String) (body : Course → Course) (rest : Course) : (rounds : Nat) → Course
  | 0 => fun _ => []
  | rounds + 1 => decided label (body (repeated label body rest rounds)) rest

mutual

/-- What a run meets from a statement on, where `rest` is what it meets behind the statement.  A
loop takes an outcome for each round, so that there are no more rounds than outcomes. -/
def course : Stmt → (rest : Course) → Course
  | .read target, rest => met (readBox target) rest
  | .assign target value, rest => met (assignBox target value) rest
  | .update target sign value, rest => met (updateBox target sign value) rest
  | .perform function args keywords, rest => met (performBox function args keywords) rest
  | .ifElse test body orelse, rest =>
    decided (textOf (conditionBox test)) (courseAll body rest) (courseAll orelse rest)
  | .whileLoop test body orelse _, rest => fun outcomes =>
    repeated (textOf (conditionBox test)) (courseAll body) (courseAll orelse rest)
      (outcomes.length + 1) outcomes
  | .skip, rest => rest
  | .program body, rest => courseAll body fun outcomes => Box.stop.text :: rest outcomes
  | .refused _, _ => fun _ => []

/-- What a run meets from several statements on. -/
def courseAll : List Stmt → (rest : Course) → Course
  | [], rest => rest
  | stmt :: rest, behind => course stmt (courseAll rest behind)

end

/-- What a run of a whole program meets, from its start on. -/
def execution (body : List Stmt) (outcomes : List Branch) : List String :=
  Box.start.text :: course (.program body) (fun _ => []) outcomes

/-- A statement that stands for one box meets that box. -/
theorem course_single {stmt : Stmt} {box : Except Refusal Box} (h : stmt.box? = some box)
    (rest : Course) : course stmt rest = met box rest := by
  cases stmt <;> cases h <;> rw [course]

/-! ### The equation of a loop -/

/-- Two courses are the same for at most `most` outcomes. -/
def AgreeUpTo (most : Nat) (first second : Course) : Prop :=
  ∀ outcomes, outcomes.length ≤ most → first outcomes = second outcomes

/-- Courses that are the same are so for fewer outcomes. -/
theorem AgreeUpTo.mono {most less : Nat} {first second : Course} (h : AgreeUpTo most first second)
    (hle : less ≤ most) : AgreeUpTo less first second :=
  fun outcomes hlength => h outcomes (Nat.le_trans hlength hle)

/-- What comes after the outcome of a condition has one outcome less. -/
theorem agreeUpTo_decided {most : Nat} {label : String} {yes yes' no no' : Course}
    (hyes : ∀ less, less < most → AgreeUpTo less yes yes')
    (hno : ∀ less, less < most → AgreeUpTo less no no') :
    AgreeUpTo most (decided label yes no) (decided label yes' no') := by
  intro outcomes hlength
  cases outcomes with
  | nil => rfl
  | cons side outcomes =>
      rw [List.length_cons] at hlength
      cases side with
      | yes => rw [decided, decided, hyes outcomes.length hlength outcomes (Nat.le_refl _)]
      | no => rw [decided, decided, hno outcomes.length hlength outcomes (Nat.le_refl _)]

/-- What is met behind a statement is looked up for no more outcomes than there are before it. -/
def Local (part : Course → Course) : Prop :=
  ∀ most first second, AgreeUpTo most first second → AgreeUpTo most (part first) (part second)

/-- A loop whose rounds are more than the outcomes does not run out of rounds. -/
theorem agreeUpTo_repeated {label : String} {body : Course → Course} (hbody : Local body)
    {rest rest' : Course} {most rounds rounds' : Nat} (hrest : AgreeUpTo most rest rest')
    (hrounds : most < rounds) (hrounds' : most < rounds') :
    AgreeUpTo most (repeated label body rest rounds) (repeated label body rest' rounds') := by
  induction most using Nat.strongRecOn generalizing rounds rounds' with
  | ind most ih =>
      obtain ⟨fewer, rfl⟩ : ∃ fewer, rounds = fewer + 1 := ⟨rounds - 1, by omega⟩
      obtain ⟨fewer', rfl⟩ : ∃ fewer', rounds' = fewer' + 1 := ⟨rounds' - 1, by omega⟩
      rw [repeated, repeated]
      refine agreeUpTo_decided (fun less hless => ?_) fun less hless => hrest.mono (by omega)
      exact hbody less _ _ (ih less hless (hrest.mono (by omega)) (by omega) (by omega))

/-- What happens at a statement that stands for one box is local. -/
theorem local_single {stmt : Stmt} {box : Except Refusal Box} (h : stmt.box? = some box) :
    Local (course stmt) := by
  intro most first second hagree outcomes hlength
  rw [course_single h, course_single h]
  cases box with
  | ok box => exact congrArg (box.text :: ·) (hagree outcomes hlength)
  | error refusal => rfl

mutual

/-- What is met at a statement is local. -/
theorem local_course : (stmt : Stmt) → Local (course stmt)
  | .read _ | .assign _ _ | .update _ _ _ | .perform _ _ _ => local_single rfl
  | .ifElse test body orelse => by
      intro most first second hagree
      rw [course, course]
      exact agreeUpTo_decided
        (fun less hless => local_courseAll body less _ _ (hagree.mono (Nat.le_of_lt hless)))
        (fun less hless => local_courseAll orelse less _ _ (hagree.mono (Nat.le_of_lt hless)))
  | .whileLoop test body orelse refusal => by
      intro most first second hagree outcomes hlength
      rw [course, course]
      -- There is one round more than outcomes, which is enough for both.
      exact agreeUpTo_repeated (local_courseAll body)
        (local_courseAll orelse _ _ _ (hagree.mono hlength)) (Nat.lt_succ_self _)
        (Nat.lt_succ_self _) outcomes (Nat.le_refl _)
  | .skip => by
      intro most first second hagree
      rw [course, course]
      exact hagree
  | .program body => by
      intro most first second hagree
      rw [course, course]
      refine local_courseAll body most _ _ fun outcomes hlength => ?_
      rw [hagree outcomes hlength]
  | .refused _ => by
      intro most first second _ outcomes _
      rw [course, course]

/-- What is met at several statements is local. -/
theorem local_courseAll : (stmts : List Stmt) → Local (courseAll stmts)
  | [] => by
      intro most first second hagree
      rw [courseAll, courseAll]
      exact hagree
  | stmt :: rest => by
      intro most first second hagree
      rw [courseAll, courseAll]
      exact local_course stmt most _ _ (local_courseAll rest most _ _ hagree)

end

/-- A loop meets its condition.  If that holds, it goes through its body and is met again; if not,
the run goes on behind it. -/
theorem course_whileLoop (test : Expr) (body orelse : List Stmt) (refusal : Refusal)
    (rest : Course) : course (.whileLoop test body orelse refusal) rest
      = decided (textOf (conditionBox test))
          (courseAll body (course (.whileLoop test body orelse refusal) rest))
          (courseAll orelse rest) := by
  have hrounds : ∀ outcomes, course (.whileLoop test body orelse refusal) rest outcomes
      = repeated (textOf (conditionBox test)) (courseAll body) (courseAll orelse rest)
          (outcomes.length + 1) outcomes := by
    intro outcomes
    rw [course]
  funext outcomes
  rw [hrounds outcomes, repeated]
  refine agreeUpTo_decided (fun less hless => ?_) (fun _ _ _ _ => rfl) outcomes (Nat.le_refl _)
  -- Behind the body there are fewer outcomes left than there are rounds.
  refine local_courseAll body less _ _ fun later hlater => ?_
  rw [hrounds later]
  exact agreeUpTo_repeated (local_courseAll body) (fun _ _ => rfl) (by omega)
    (Nat.lt_succ_self _) later (Nat.le_refl _)

end Flowchart.Stmt

namespace Flowchart.Chart

open Stmt (Course decided)

/-! ### Walks that follow a course -/

variable {chart : Chart} {most : Nat} {u v : NodeId} {course : Course}

/-- With at most `most` outcomes, the walk from a link on shows what the run meets. -/
def Follows (chart : Chart) (most : Nat) (target : Link) (course : Course) : Prop :=
  ∀ outcomes, outcomes.length ≤ most → chart.Walk target outcomes (course outcomes)

/-- With at most `most` outcomes, the walk shows what the run meets from where a node leads on. -/
def FollowsOn (chart : Chart) (most : Nat) (u : NodeId) (course : Course) : Prop :=
  ∃ node target, chart[u]? = some node ∧ node.exit = .next target ∧ chart.Follows most target course

/-- A walk that shows what the run meets does so for fewer outcomes. -/
theorem FollowsOn.mono (h : chart.FollowsOn most u course) {less : Nat} (hle : less ≤ most) :
    chart.FollowsOn less u course := by
  obtain ⟨node, target, hnode, hexit, hfollows⟩ := h
  exact ⟨node, target, hnode, hexit,
    fun outcomes hlength => hfollows outcomes (Nat.le_trans hlength hle)⟩

/-- A node that leads on to another shows from there on what the other one shows. -/
theorem Next.followsOn (h : chart.Next u v) (hv : chart.Follows most (.node v) course) :
    chart.FollowsOn most u course := by
  obtain ⟨node, hnode, hexit⟩ := h
  exact ⟨node, .node v, hnode, hexit, hv⟩

/-- A joint shows nothing. -/
theorem Holds.follows_joint {box : Box} (h : chart.Holds v box) (hjoint : box.isJoint = true)
    (hv : chart.FollowsOn most v course) : chart.Follows most (.node v) course := by
  obtain ⟨node, target, hnode, hexit, hfollows⟩ := hv
  obtain rfl := h.box_eq hnode
  exact fun outcomes hlength => .pass hnode hjoint hexit (hfollows outcomes hlength)

/-- Every other box that leads on shows its text. -/
theorem Holds.follows_box {box : Box} (h : chart.Holds v box) (hjoint : box.isJoint = false)
    (hv : chart.FollowsOn most v course) :
    chart.Follows most (.node v) fun outcomes => box.text :: course outcomes := by
  obtain ⟨node, target, hnode, hexit, hfollows⟩ := hv
  obtain rfl := h.box_eq hnode
  exact fun outcomes hlength => .step hnode hjoint hexit (hfollows outcomes hlength)

/-- A condition shows its text, and the walk goes on at the side of the outcome. -/
theorem Forks.follows {no yes : NodeId} {box : Box} {onYes onNo : Course} (h : chart.Forks v no yes)
    (hbox : chart.Holds v box) (hyes : ∀ less, less < most → chart.Follows less (.node yes) onYes)
    (hno : ∀ less, less < most → chart.Follows less (.node no) onNo) :
    chart.Follows most (.node v) (decided box.text onYes onNo) := by
  obtain ⟨node, hnode, hexit⟩ := h
  obtain rfl := hbox.box_eq hnode
  have hbranch : node.exit.isBranch = true := by rw [hexit]; rfl
  intro outcomes hlength
  cases outcomes with
  -- Without an outcome the walk stops at the condition, and so does the run.
  | nil => exact .pause hnode hbranch
  | cons side outcomes =>
      rw [List.length_cons] at hlength
      cases side with
      | yes =>
          refine .turn hnode hbranch ?_
          rw [hexit]
          exact hyes outcomes.length hlength outcomes (Nat.le_refl _)
      | no =>
          refine .turn hnode hbranch ?_
          rw [hexit]
          exact hno outcomes.length hlength outcomes (Nat.le_refl _)

end Flowchart.Chart

namespace Flowchart.Stmt

/-! ### Runs and charts -/

mutual

/-- Whether no loop, at any depth, does anything in the end. -/
def isElseFree : Stmt → Bool
  | .ifElse _ body orelse => areElseFree body && areElseFree orelse
  | .whileLoop _ body orelse _ => areElseFree body && orelse.isEmpty
  | .program body => areElseFree body
  | _ => true

/-- Whether no loop of several statements does. -/
def areElseFree : List Stmt → Bool
  | [] => true
  | stmt :: rest => stmt.isElseFree && areElseFree rest

end

/-- Wherever a statement stands, the walk shows what a run meets at it, if it does so behind it. -/
def Simulates (chart : Chart) (stmt : Stmt) : Prop :=
  ∀ u lo v hi, chart.Shows .graph stmt u lo v hi → stmt.isElseFree = true →
    ∀ most rest, chart.FollowsOn most v rest → chart.FollowsOn most u (course stmt rest)

variable {chart : Chart}

/-- Statements are simulated if each of them is. -/
theorem simulates_all {stmts : List Stmt} (h : ∀ stmt ∈ stmts, Simulates chart stmt)
    {u lo v hi : NodeId} (hshows : chart.ShowsAll .graph stmts u lo v hi)
    (helse : areElseFree stmts = true) {most : Nat} {rest : Course}
    (hrest : chart.FollowsOn most v rest) : chart.FollowsOn most u (courseAll stmts rest) := by
  induction stmts generalizing u lo with
  | nil =>
      rw [Chart.ShowsAll] at hshows
      rw [courseAll, ← hshows.1]
      exact hrest
  | cons stmt stmts ih =>
      rw [Chart.ShowsAll] at hshows
      obtain ⟨mid, next, hstmt, hstmts⟩ := hshows
      rw [areElseFree, Bool.and_eq_true] at helse
      rw [courseAll]
      exact h stmt List.mem_cons_self u lo mid next hstmt helse.1 most _
        (ih (fun s hs => h s (List.mem_cons_of_mem _ hs)) hstmts helse.2)

/-- A statement that is drawn as one box is simulated by the box. -/
theorem simulates_single {stmt : Stmt} {box : Except Refusal Box} (h : stmt.box? = some box) :
    Simulates chart stmt := by
  intro u lo v hi hshows _ most rest hrest
  rw [Chart.shows_single h] at hshows
  obtain ⟨shown, rfl, hnext, hholds, rfl, rfl⟩ := hshows
  rw [course_single h]
  exact hnext.followsOn (hholds.follows_box (box?_plain h).2 hrest)

/-- A condition is simulated if the statements on its two sides are. -/
theorem simulates_ifElse {test : Expr} {body orelse : List Stmt}
    (hbody : ∀ stmt ∈ body, Simulates chart stmt)
    (horelse : ∀ stmt ∈ orelse, Simulates chart stmt) :
    Simulates chart (.ifElse test body orelse) := by
  intro u lo v hi hshows helse most rest hrest
  rw [Chart.Shows] at hshows
  obtain ⟨box, yesEnd, no, noEnd, hcondition, hnext, hbox, hforks, hyesHead, hyes, hnoHead, hno,
    hyesEnd, hnoEnd, hjoin, -⟩ := hshows
  rw [isElseFree, Bool.and_eq_true] at helse
  rw [course, hcondition]
  -- Either side ends at the join, from where it goes on behind the condition.
  refine hnext.followsOn (hforks.follows hbox (fun less hless => ?_) fun less hless => ?_)
  · have hmeet := hjoin.follows_joint rfl (hrest.mono (Nat.le_of_lt hless))
    exact hyesHead.follows_joint rfl (simulates_all hbody hyes helse.1 (hyesEnd.followsOn hmeet))
  · have hmeet := hjoin.follows_joint rfl (hrest.mono (Nat.le_of_lt hless))
    exact hnoHead.follows_joint rfl (simulates_all horelse hno helse.2 (hnoEnd.followsOn hmeet))

/-- A loop is simulated if the statements of its body are. -/
theorem simulates_whileLoop {test : Expr} {body orelse : List Stmt} {refusal : Refusal}
    (hbody : ∀ stmt ∈ body, Simulates chart stmt) :
    Simulates chart (.whileLoop test body orelse refusal) := by
  intro u lo v hi hshows helse most rest hrest
  rw [Chart.Shows] at hshows
  obtain ⟨-, box, bodyEnd, hcondition, hnext, hjoin, htop, hbox, hforks, hyesHead, hyes, hback,
    hnoHead, -⟩ := hshows
  rw [isElseFree, Bool.and_eq_true, List.isEmpty_iff] at helse
  obtain ⟨helse, rfl⟩ := helse
  -- From the top of the loop on, by induction on the outcomes: each round takes one.
  have hloop : chart.Follows most (.node lo) (course (.whileLoop test body [] refusal) rest) := by
    induction most using Nat.strongRecOn with
    | ind most ih =>
        rw [course_whileLoop, hcondition, courseAll]
        refine hjoin.follows_joint rfl (htop.followsOn (hforks.follows hbox
          (fun less hless => ?_) fun less hless => ?_))
        · exact hyesHead.follows_joint rfl (simulates_all hbody hyes helse
            (hback.followsOn (ih less hless (hrest.mono (Nat.le_of_lt hless)))))
        · exact hnoHead.follows_joint rfl (hrest.mono (Nat.le_of_lt hless))
  exact hnext.followsOn hloop

/-- A program is simulated if its statements are. -/
theorem simulates_program {body : List Stmt} (hbody : ∀ stmt ∈ body, Simulates chart stmt) :
    Simulates chart (.program body) := by
  intro u lo v hi hshows helse most rest hrest
  rw [Chart.Shows] at hshows
  obtain ⟨bodyEnd, hall, hstop, hholds, -⟩ := hshows
  rw [isElseFree] at helse
  rw [course]
  exact simulates_all hbody hall helse (hstop.followsOn (hholds.follows_box rfl hrest))

/-- Every statement is simulated wherever it stands. -/
theorem simulates (stmt : Stmt) : Simulates chart stmt := by
  induction stmt using nestedInduction with
  | single stmt box hbox => exact simulates_single hbox
  | ifElse test body orelse hbody horelse => exact simulates_ifElse hbody horelse
  | whileLoop test body orelse refusal hbody => exact simulates_whileLoop hbody
  | skip =>
      intro u lo v hi hshows _ most rest hrest
      rw [Chart.Shows] at hshows
      rw [course, ← hshows.1]
      exact hrest
  | program body hbody => exact simulates_program hbody
  | refused refusal =>
      intro u lo v hi hshows
      rw [Chart.Shows] at hshows
      exact hshows.elim

end Flowchart.Stmt

namespace Flowchart.Chart

/-- The walk along the chart of a program shows what a run of the program meets. -/
theorem Depicts.walk {chart : Chart} {body : List Stmt} {last : NodeId}
    (h : chart.Depicts body last) (helse : Stmt.areElseFree body = true) (outcomes : List Branch) :
    chart.Walk (.node 0) outcomes (Stmt.execution body outcomes) := by
  obtain ⟨leaf, hleaf, hopen⟩ := h.leaf
  have hlast : chart.FollowsOn outcomes.length last fun _ => [] :=
    ⟨leaf, .nowhere, hleaf, hopen, fun _ _ => .stop⟩
  have hbody := Stmt.simulates (.program body) 0 1 last chart.size h.shows
    (by rw [Stmt.isElseFree]; exact helse) outcomes.length _ hlast
  exact h.built.start.follows_box rfl hbody outcomes (Nat.le_refl _)

end Flowchart.Chart
