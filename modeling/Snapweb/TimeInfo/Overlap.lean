import Snapweb.Core.Machine
import Snapweb.TimeInfo.Timesyncd

/-!
# Two NTP servers written at once

Each change of the server name in the settings view is a request of its own, and nothing in
`writeNTPServer` keeps two of them apart: a call loads the file, and later saves what it has made of
it.  Two calls may both load the file before either saves it.

* `overlapping_writes` — when the list that two calls leave is one that they leave one after the
  other.
* `ntpServer_lost` — a server that is lost.
-/

namespace Snapweb

open Ini

variable {β : Type*}

/-- One of two calls of `writeNTPServer`. -/
inductive Caller
  | first
  | second
  deriving DecidableEq, Repr

/-- The other call. -/
def Caller.other : Caller → Caller
  | first => second
  | second => first

@[simp] lemma Caller.other_ne (c : Caller) : c.other ≠ c := by cases c <;> decide

@[simp] lemma Caller.ne_other (c : Caller) : c ≠ c.other := by cases c <;> decide

@[simp] lemma Caller.other_other (c : Caller) : c.other.other = c := by cases c <;> rfl

lemma Caller.eq_or_eq_other (c d : Caller) : d = c ∨ d = c.other := by
  cases c <;> cases d <;> decide

/-- How far a call is: what it has made of the file it has loaded is still to be saved. -/
inductive Phase
  | waiting
  | loaded (edit : NTPEdit)
  | returned

/-- The file and the calls. -/
structure Writers (β : Type*) where
  file : Option (List β)
  phase : Caller → Phase

namespace Writers

/-- The file and the calls after `c` has gone on. -/
def become (w : Writers β) (c : Caller) (phase : Phase) : Writers β :=
  { w with phase := Function.update w.phase c phase }

/-- A call goes on: it loads the file, or saves it, where every save succeeds. -/
def next (lib : Library β) (ntpServer : Caller → String) (w : Writers β) (c : Caller) :
    Option (Writers β) :=
  match w.phase c with
  | .waiting => some (w.become c (.loaded (editNTPServer lib w.file (ntpServer c))))
  | .loaded edit => some { w.become c .returned with file := edit.saved lib w.file }
  | .returned => none

/-- The two calls, as a machine. -/
def machine (lib : Library β) (ntpServer : Caller → String) : Machine (Writers β) Caller :=
  ⟨next lib ntpServer⟩

/-- Neither call has begun. -/
def start (conf : Option (List β)) : Writers β := ⟨conf, fun _ => .waiting⟩

/-- Both calls have returned. -/
def Done (w : Writers β) : Prop := ∀ c, w.phase c = .returned

end Writers

/-- The file that two calls leave that are made one after the other. -/
def inTurn (lib : Library β) (conf : Option (List β)) (ntpServer₁ ntpServer₂ : String) :
    Option (List β) :=
  (writeNTPServer lib .done (writeNTPServer lib .done conf ntpServer₁).2 ntpServer₂).2

/-- The list is one that the two calls leave if they are made one after the other. -/
def Serial (lib : Library β) (ntpServer : Caller → String) (conf conf' : Option (List β)) : Prop :=
  ∃ c : Caller, ntpServers lib conf'
    = ntpServers lib (inTurn lib conf (ntpServer c) (ntpServer c.other))

/-! ## When nothing is lost -/

/-- Of two calls that both load the list `servers` and both have something to write, the one with
`ntpServer` saves last, and the list does not tell that the other was there. -/
def NothingLost (lib : Library β) (servers : List String) (other ntpServer : String) : Prop :=
  if other = "" then
    if ntpServer = "" then servers.tail = [] else servers = []
  else if ntpServer = "" then
    servers.tail.head? = some other ∨ (lib.strings other).tail ++ servers = []
  else
    (lib.strings ntpServer).head? = some other ∨
      (lib.strings other = lib.strings ntpServer ∧ (lib.strings other).head? = some ntpServer)

/-- One call has returned before the other begins, or one of them has nothing to write. -/
def Apart (lib : Library β) (ntpServer : Caller → String) (conf : Option (List β))
    (order : List Caller) : Prop :=
  (∃ c : Caller, order = [c, c, c.other, c.other]) ∨ ¬ HasTime lib conf ∨
    ∃ c, NothingToWrite lib conf (ntpServer c)

/-- The calls are apart, or nothing is lost when the call that moves last saves. -/
def Harmless (lib : Library β) (ntpServer : Caller → String) (conf : Option (List β))
    (order : List Caller) : Prop :=
  Apart lib ntpServer conf order ∨
    ∃ c : Caller, order.getLast? = some c ∧
      NothingLost lib (ntpServers lib conf) (ntpServer c.other) (ntpServer c)

/-! ## The runs of two calls -/

namespace Writers

variable {lib : Library β} {ntpServer : Caller → String}

lemma phase_become_self (w : Writers β) (c : Caller) (phase : Phase) :
    (w.become c phase).phase c = phase :=
  Function.update_self _ _ _

lemma phase_become_ne (w : Writers β) {c d : Caller} (phase : Phase) (h : d ≠ c) :
    (w.become c phase).phase d = w.phase d :=
  Function.update_of_ne h _ _

/-- What a call can do next, and what it then leaves. -/
lemma next_cases {w w' : Writers β} {c : Caller} (h : next lib ntpServer w c = some w') :
    (w.phase c = .waiting ∧
        w' = w.become c (.loaded (editNTPServer lib w.file (ntpServer c)))) ∨
      ∃ edit, w.phase c = .loaded edit ∧
        w' = { w.become c .returned with file := edit.saved lib w.file } := by
  rw [next] at h
  cases hphase : w.phase c with
  | waiting =>
      rw [hphase] at h
      exact .inl ⟨rfl, (Option.some.inj h).symm⟩
  | loaded edit =>
      rw [hphase] at h
      exact .inr ⟨edit, rfl, (Option.some.inj h).symm⟩
  | returned =>
      rw [hphase] at h
      cases h

variable {w w' : Writers β} {c : Caller} {order : List Caller}

/-- A run that is not over goes on with a call that has not returned. -/
lemma exec_done (hrun : (machine lib ntpServer).exec w order = some w') (hdone : w'.Done)
    (hc : w.phase c ≠ .returned) :
    ∃ d rest w₁, order = d :: rest ∧ next lib ntpServer w d = some w₁ ∧
      (machine lib ntpServer).exec w₁ rest = some w' := by
  cases order with
  | nil =>
      cases hrun
      exact absurd (hdone c) hc
  | cons d rest =>
      obtain ⟨w₁, hnext, hrest⟩ := Machine.exec_cons_eq_some.mp hrun
      exact ⟨d, rest, w₁, rfl, hnext, hrest⟩

lemma exec_returned (hrun : (machine lib ntpServer).exec w order = some w')
    (hw : w.Done) : order = [] ∧ w' = w := by
  cases order with
  | nil =>
      cases hrun
      exact ⟨rfl, rfl⟩
  | cons d rest =>
      obtain ⟨w₁, hnext, -⟩ := Machine.exec_cons_eq_some.mp hrun
      rcases next_cases hnext with ⟨hd, -⟩ | ⟨edit, hd, -⟩ <;> cases (hw d).symm.trans hd

/-- A call is left that has loaded the file. -/
lemma exec_loaded {edit : NTPEdit} (hrun : (machine lib ntpServer).exec w order = some w')
    (hdone : w'.Done) (hc : w.phase c = .loaded edit) (hother : w.phase c.other = .returned) :
    order = [c] ∧ w'.file = edit.saved lib w.file := by
  obtain ⟨d, rest, w₁, rfl, hnext, hrest⟩ := exec_done hrun hdone (c := c) (by rw [hc]; nofun)
  have hd : d = c := by
    rcases c.eq_or_eq_other d with rfl | rfl
    · rfl
    · rcases next_cases hnext with ⟨hd, -⟩ | ⟨_, hd, -⟩ <;> cases hother.symm.trans hd
  subst hd
  rcases next_cases hnext with ⟨hd, -⟩ | ⟨_, hd, rfl⟩ <;> cases hc.symm.trans hd
  have hreturned : Done { w.become d .returned with file := edit.saved lib w.file } := by
    intro e
    rcases d.eq_or_eq_other e with rfl | rfl
    · exact phase_become_self w _ _
    · exact (phase_become_ne w _ (by simp)).trans hother
  obtain ⟨rfl, rfl⟩ := exec_returned hrest hreturned
  exact ⟨rfl, rfl⟩

/-- A call is left that has not begun. -/
lemma exec_waiting (hrun : (machine lib ntpServer).exec w order = some w')
    (hdone : w'.Done) (hc : w.phase c = .waiting) (hother : w.phase c.other = .returned) :
    order = [c, c] ∧ w'.file = (editNTPServer lib w.file (ntpServer c)).saved lib w.file := by
  obtain ⟨d, rest, w₁, rfl, hnext, hrest⟩ := exec_done hrun hdone (c := c) (by rw [hc]; nofun)
  have hd : d = c := by
    rcases c.eq_or_eq_other d with rfl | rfl
    · rfl
    · rcases next_cases hnext with ⟨hd, -⟩ | ⟨_, hd, -⟩ <;> cases hother.symm.trans hd
  subst hd
  rcases next_cases hnext with ⟨hd, rfl⟩ | ⟨_, hd, -⟩
  · obtain ⟨rfl, hfile⟩ := exec_loaded hrest hdone (phase_become_self w d _)
      ((phase_become_ne w _ (by simp)).trans hother)
    exact ⟨rfl, hfile⟩
  · cases hc.symm.trans hd

/-- Both calls have loaded the file. -/
lemma exec_both_loaded (edit : Caller → NTPEdit)
    (hrun : (machine lib ntpServer).exec w order = some w') (hdone : w'.Done)
    (hboth : ∀ c, w.phase c = .loaded (edit c)) :
    ∃ c : Caller, order = [c.other, c] ∧
      w'.file = (edit c).saved lib ((edit c.other).saved lib w.file) := by
  obtain ⟨d, rest, w₁, rfl, hnext, hrest⟩ :=
    exec_done hrun hdone (c := .first) (by rw [hboth]; nofun)
  rcases next_cases hnext with ⟨hd, -⟩ | ⟨_, hd, rfl⟩ <;> cases (hboth d).symm.trans hd
  obtain ⟨rfl, hfile⟩ := exec_loaded (c := d.other) hrest hdone
    ((phase_become_ne w _ (by simp)).trans (hboth _))
    (by rw [Caller.other_other]; exact phase_become_self w d _)
  exact ⟨d.other, by rw [Caller.other_other], by rw [Caller.other_other]; exact hfile⟩

/-- A run of both calls: one after the other, or both load the file before either saves it. -/
theorem exec_start {conf : Option (List β)}
    (hrun : (machine lib ntpServer).exec (start conf) order = some w') (hdone : w'.Done) :
    (∃ c : Caller, order = [c, c, c.other, c.other] ∧
        w'.file = inTurn lib conf (ntpServer c) (ntpServer c.other)) ∨
      ∃ c d : Caller, order = [d, d.other, c.other, c] ∧
        w'.file = (editNTPServer lib conf (ntpServer c)).saved lib
          ((editNTPServer lib conf (ntpServer c.other)).saved lib conf) := by
  obtain ⟨d, rest, w₁, rfl, hnext, hrest⟩ := exec_done hrun hdone (c := .first) nofun
  rcases next_cases hnext with ⟨-, rfl⟩ | ⟨_, hd, -⟩
  swap
  · cases hd
  have hself := phase_become_self (start conf) d (.loaded (editNTPServer lib conf (ntpServer d)))
  obtain ⟨e, rest, w₂, rfl, hnext, hrest⟩ := exec_done hrest hdone (c := d)
    (fun h => by cases hself.symm.trans h)
  rcases d.eq_or_eq_other e with rfl | rfl
  · -- the call returns before the other begins
    rcases next_cases hnext with ⟨he, -⟩ | ⟨_, he, rfl⟩ <;> cases hself.symm.trans he
    obtain ⟨rfl, hfile⟩ := exec_waiting (c := e.other) hrest hdone
      ((phase_become_ne _ _ (by simp)).trans (phase_become_ne _ _ (by simp)))
      (by rw [Caller.other_other]; exact phase_become_self _ e _)
    refine .inl ⟨e, rfl, hfile.trans ?_⟩
    rw [inTurn, writeNTPServer_done, writeNTPServer_done]
    rfl
  · have hwaiting := phase_become_ne (start conf) (c := d) (d := d.other)
      (.loaded (editNTPServer lib conf (ntpServer d))) (by simp)
    rcases next_cases hnext with ⟨-, rfl⟩ | ⟨_, he, -⟩
    swap
    · cases hwaiting.symm.trans he
    obtain ⟨c, rfl, hfile⟩ := exec_both_loaded
      (fun c => editNTPServer lib conf (ntpServer c)) hrest hdone (fun c => by
        rcases d.eq_or_eq_other c with rfl | rfl
        · exact (phase_become_ne _ _ (by simp)).trans hself
        · exact phase_become_self _ _ _)
    exact .inr ⟨c, d, rfl, hfile⟩

end Writers

/-! ## When the list is one of the two -/

section Lists

variable {lib : Library β} {servers : List String} {other ntpServer : String}

lemma after_empty (servers : List String) : lib.after servers "" = servers.tail := if_pos rfl

lemma after_of_head? (h : servers.head? = some ntpServer) (hne : ntpServer ≠ "") :
    lib.after servers ntpServer = servers := by
  rw [Library.after, if_neg hne, if_pos h]

lemma after_of_head?_ne (h : servers.head? ≠ some ntpServer) (hne : ntpServer ≠ "") :
    lib.after servers ntpServer = lib.strings ntpServer ++ servers := by
  rw [Library.after, if_neg hne, if_neg h]

lemma length_lt_of_ne_nil {servers : List String} (h : servers ≠ []) (servers' : List String) :
    servers'.length < (servers ++ servers').length := by
  have := List.length_pos_of_ne_nil h
  rw [List.length_append]
  omega

/-- Taking a server away leaves a shorter list, where there is one. -/
lemma tail_eq_self {servers : List String} : servers.tail = servers ↔ servers = [] := by
  refine ⟨fun h => ?_, fun h => by rw [h]; rfl⟩
  have hlength := congrArg List.length h
  rw [List.length_tail] at hlength
  exact List.eq_nil_of_length_eq_zero (by omega)

/-- Both calls write a server. -/
lemma after_serial_names (hnil : lib.strings other ≠ []) (hnil' : lib.strings ntpServer ≠ [])
    (hother : other ≠ "") (hne : ntpServer ≠ "")
    (hhead : servers.head? ≠ some other) (hhead' : servers.head? ≠ some ntpServer) :
    (lib.after servers ntpServer = lib.after (lib.after servers other) ntpServer ∨
        lib.after servers ntpServer = lib.after (lib.after servers ntpServer) other) ↔
      (lib.strings ntpServer).head? = some other ∨
        (lib.strings other = lib.strings ntpServer ∧
          (lib.strings other).head? = some ntpServer) := by
  rw [after_of_head?_ne hhead' hne, after_of_head?_ne hhead hother, or_comm]
  refine or_congr ?_ ?_
  · by_cases h : (lib.strings ntpServer).head? = some other
    · rw [after_of_head? ((List.head?_append_of_ne_nil _ hnil').trans h) hother]
      exact iff_of_true rfl h
    · rw [after_of_head?_ne (fun h' => h ((List.head?_append_of_ne_nil _ hnil').symm.trans h')) hother,
        List.self_eq_append_left]
      exact iff_of_false hnil h
  · by_cases h : (lib.strings other).head? = some ntpServer
    · rw [after_of_head? ((List.head?_append_of_ne_nil _ hnil).trans h) hne,
        List.append_cancel_right_eq]
      exact ⟨fun heq => ⟨heq.symm, h⟩, fun heq => heq.1.symm⟩
    · rw [after_of_head?_ne (fun h' => h ((List.head?_append_of_ne_nil _ hnil).symm.trans h')) hne,
        List.append_cancel_left_eq, List.self_eq_append_left]
      exact iff_of_false hnil fun heq => h heq.2

/-- The call that saves last writes a server, the other one takes one away. -/
lemma after_serial_pop_name (hnil : lib.strings ntpServer ≠ []) (hne : ntpServer ≠ "")
    (hhead : servers.head? ≠ some ntpServer) :
    (lib.after servers ntpServer = lib.after servers.tail ntpServer ∨
        lib.after servers ntpServer = (lib.after servers ntpServer).tail) ↔ servers = [] := by
  rw [after_of_head?_ne hhead hne]
  constructor
  · rintro (h | h)
    · by_cases hpop : servers.tail.head? = some ntpServer
      · -- the list that is left would be longer than it was
        rw [after_of_head? hpop hne] at h
        have hlt := length_lt_of_ne_nil hnil servers
        rw [h, List.length_tail] at hlt
        omega
      · rw [after_of_head?_ne hpop hne, List.append_cancel_left_eq] at h
        exact tail_eq_self.mp h.symm
    · exact absurd (tail_eq_self.mp h.symm) (List.append_ne_nil_of_left_ne_nil hnil _)
  · rintro rfl
    rw [List.tail_nil, after_of_head?_ne hhead hne]
    exact .inl rfl

/-- The call that saves last takes a server away, the other one writes one. -/
lemma after_serial_name_pop (hnil : lib.strings other ≠ []) (hother : other ≠ "")
    (hhead : servers.head? ≠ some other) :
    (servers.tail = (lib.after servers other).tail ∨
        servers.tail = lib.after servers.tail other) ↔
      servers.tail.head? = some other ∨ (lib.strings other).tail ++ servers = [] := by
  rw [after_of_head?_ne hhead hother, or_comm]
  refine or_congr ?_ ?_
  · by_cases h : servers.tail.head? = some other
    · rw [after_of_head? h hother]
      exact iff_of_true rfl h
    · rw [after_of_head?_ne h hother, List.self_eq_append_left]
      exact iff_of_false hnil h
  · rw [List.tail_append_of_ne_nil hnil]
    constructor
    · intro h
      have hlength := congrArg List.length h
      rw [List.length_tail, List.length_append, List.length_tail] at hlength
      refine List.eq_nil_of_length_eq_zero ?_
      rw [List.length_append, List.length_tail]
      have hpos := List.length_pos_of_ne_nil hnil
      omega
    · intro h
      rw [h, (List.append_eq_nil_iff.mp h).2]
      rfl

/-- **What is left of the other call.**  Of two calls that both load `servers`, and both have
something to write, the one with `ntpServer` saves last: the list is as if they had been made one
after the other exactly where nothing is lost. -/
lemma after_serial_iff (hnil : other ≠ "" → lib.strings other ≠ [])
    (hnil' : ntpServer ≠ "" → lib.strings ntpServer ≠ [])
    (hother : other ≠ "" → servers.head? ≠ some other)
    (hserver : ntpServer ≠ "" → servers.head? ≠ some ntpServer) :
    (lib.after servers ntpServer = lib.after (lib.after servers other) ntpServer ∨
        lib.after servers ntpServer = lib.after (lib.after servers ntpServer) other) ↔
      NothingLost lib servers other ntpServer := by
  rw [NothingLost]
  by_cases ho : other = "" <;> by_cases hn : ntpServer = ""
  · rw [if_pos ho, if_pos hn, ho, hn, after_empty, after_empty, or_self, eq_comm]
    exact tail_eq_self
  · rw [if_pos ho, if_neg hn, ho, after_empty, after_empty]
    exact after_serial_pop_name (hnil' hn) hn (hserver hn)
  · rw [if_neg ho, if_pos hn, hn, after_empty, after_empty]
    exact after_serial_name_pop (hnil ho) ho (hother ho)
  · rw [if_neg ho, if_neg hn]
    exact after_serial_names (hnil ho) (hnil' hn) ho hn (hother ho) (hserver hn)

end Lists

/-! ## The two calls -/

section Calls

variable {lib : Library β} {conf : Option (List β)} {ntpServer : Caller → String} {c d : Caller}
  {Server : String → Prop} {Kept : File → Prop}

lemma ntpServers_inTurn (hlib : lib.Lawful Server Kept) (hkeeps : lib.Keeps Server Kept conf)
    (h : HasTime lib conf) {ntpServer₁ ntpServer₂ : String}
    (hname₁ : IsServerList Server ntpServer₁) (hname₂ : IsServerList Server ntpServer₂) :
    ntpServers lib (inTurn lib conf ntpServer₁ ntpServer₂)
      = lib.after (lib.after (ntpServers lib conf) ntpServer₁) ntpServer₂ := by
  obtain ⟨htime, hkeeps', hservers⟩ := ntpServers_call hlib hkeeps h hname₁
  rw [inTurn, (ntpServers_call hlib hkeeps' htime hname₂).2.2, hservers]

/-- Without a `[Time]` section neither call writes anything. -/
lemma serial_of_not_hasTime (h : ¬ HasTime lib conf) :
    Serial lib ntpServer conf ((editNTPServer lib conf (ntpServer c)).saved lib
      ((editNTPServer lib conf (ntpServer c.other)).saved lib conf)) := by
  obtain ⟨err, herr⟩ := editNTPServer_of_not_hasTime h (ntpServer c)
  obtain ⟨err', herr'⟩ := editNTPServer_of_not_hasTime h (ntpServer c.other)
  have hcall : (writeNTPServer lib .done conf (ntpServer c)).2 = conf := by
    rw [writeNTPServer_done, herr]
    rfl
  refine ⟨c, ?_⟩
  rw [inTurn, hcall, writeNTPServer_done, herr, herr']
  rfl

/-- A call that has nothing to write has no effect before the other. -/
lemma serial_of_nothingToWrite (h : HasTime lib conf)
    (hnothing : NothingToWrite lib conf (ntpServer d)) :
    Serial lib ntpServer conf ((editNTPServer lib conf (ntpServer c)).saved lib
      ((editNTPServer lib conf (ntpServer c.other)).saved lib conf)) := by
  have hedit := editNTPServer_of_nothing h hnothing
  have hcall : (writeNTPServer lib .done conf (ntpServer d)).2 = conf := by
    rw [writeNTPServer_done, hedit]
    rfl
  refine ⟨d, congrArg (ntpServers lib) ?_⟩
  rw [inTurn, hcall, writeNTPServer_done]
  rcases d.eq_or_eq_other c with rfl | rfl
  · rw [hedit]
    rfl
  · rw [Caller.other_other, hedit]
    rfl

/-- Both calls save what they have made of the same file. -/
lemma serial_of_overlap (hlib : lib.Lawful Server Kept) (hkeeps : lib.Keeps Server Kept conf)
    (hnames : ∀ c, IsServerList Server (ntpServer c)) (h : HasTime lib conf)
    (hwrite : ∀ c, ¬ NothingToWrite lib conf (ntpServer c)) :
    Serial lib ntpServer conf ((editNTPServer lib conf (ntpServer c)).saved lib
        ((editNTPServer lib conf (ntpServer c.other)).saved lib conf)) ↔
      NothingLost lib (ntpServers lib conf) (ntpServer c.other) (ntpServer c) := by
  have hhead : ∀ c, ntpServer c ≠ "" → (ntpServers lib conf).head? ≠ some (ntpServer c) := by
    intro c hne hhead
    refine hwrite c ?_
    rw [NothingToWrite, if_neg hne]
    exact hhead
  have hnil : ∀ c, ntpServer c ≠ "" → lib.strings (ntpServer c) ≠ [] :=
    fun c hne hnil => hne ((hlib.strings_eq_nil_iff (hnames c)).mp hnil)
  have hlast : ntpServers lib ((editNTPServer lib conf (ntpServer c)).saved lib
      ((editNTPServer lib conf (ntpServer c.other)).saved lib conf))
        = lib.after (ntpServers lib conf) (ntpServer c) := by
    rcases editNTPServer_spec hlib hkeeps h (hnames c) with
      ⟨hno, -⟩ | ⟨-, timesyncd, hedit, -, -, hafter⟩
    · exact absurd hno (hwrite c)
    rcases editNTPServer_spec hlib hkeeps h (hnames c.other) with
      ⟨hno, -⟩ | ⟨-, _, hother, htime, -⟩
    · exact absurd hno (hwrite c.other)
    · rw [hother, h.saved_save, hedit, htime.saved_save, hafter]
  rw [← after_serial_iff (hnil c.other) (hnil c) (hhead c.other) (hhead c),
    ← ntpServers_inTurn hlib hkeeps h (hnames c.other) (hnames c),
    ← ntpServers_inTurn hlib hkeeps h (hnames c) (hnames c.other), ← hlast]
  constructor
  · rintro ⟨d, hd⟩
    rcases c.eq_or_eq_other d with rfl | rfl
    · exact .inr hd
    · rw [Caller.other_other] at hd
      exact .inl hd
  · rintro (hd | hd)
    · exact ⟨c.other, by rw [Caller.other_other]; exact hd⟩
    · exact ⟨c, hd⟩

/-- Calls that are apart. -/
lemma serial_of_apart {order : List Caller} {w : Writers β}
    (hrun : (Writers.machine lib ntpServer).exec (Writers.start conf) order = some w)
    (hdone : w.Done) (hapart : Apart lib ntpServer conf order) :
    Serial lib ntpServer conf w.file := by
  rcases Writers.exec_start hrun hdone with ⟨c, -, hfile⟩ | ⟨c, d, horder, hfile⟩
  · exact ⟨c, congrArg (ntpServers lib) hfile⟩
  rw [hfile]
  rcases hapart with ⟨e, he⟩ | htime | ⟨e, hnothing⟩
  · -- the second to move is not the first
    rw [horder] at he
    simp only [List.cons.injEq] at he
    exact absurd (he.1.trans he.2.1.symm) d.ne_other
  · exact serial_of_not_hasTime htime
  · by_cases htime : HasTime lib conf
    · exact serial_of_nothingToWrite htime hnothing
    · exact serial_of_not_hasTime htime

/-- **Two calls at once.**  In every run of two calls in which both return, the list is one that
they leave one after the other where the calls are apart; and where the names and the servers of the
file are such that the library keeps them, exactly if the run is harmless. -/
theorem overlapping_writes (lib : Library β) (ntpServer : Caller → String)
    (conf : Option (List β)) (order : List Caller) (w : Writers β)
    (hrun : (Writers.machine lib ntpServer).exec (Writers.start conf) order = some w)
    (hdone : w.Done) :
    (Apart lib ntpServer conf order → Serial lib ntpServer conf w.file) ∧
      ∀ (Server : String → Prop) (Kept : File → Prop), lib.Lawful Server Kept →
        lib.Keeps Server Kept conf → (∀ c, IsServerList Server (ntpServer c)) →
        (Serial lib ntpServer conf w.file ↔ Harmless lib ntpServer conf order) := by
  refine ⟨serial_of_apart hrun hdone, fun Server Kept hlib hkeeps hnames => ?_⟩
  by_cases hapart : Apart lib ntpServer conf order
  · exact iff_of_true (serial_of_apart hrun hdone hapart) (.inl hapart)
  rcases Writers.exec_start hrun hdone with ⟨c, horder, -⟩ | ⟨c, d, horder, hfile⟩
  · exact absurd (.inl ⟨c, horder⟩) hapart
  have htime : HasTime lib conf := by
    by_contra htime
    exact hapart (.inr (.inl htime))
  have hwrite : ∀ e, ¬ NothingToWrite lib conf (ntpServer e) :=
    fun e he => hapart (.inr (.inr ⟨e, he⟩))
  have hlast : order.getLast? = some c := by rw [horder]; rfl
  rw [hfile, serial_of_overlap hlib hkeeps hnames htime hwrite]
  constructor
  · exact fun h => .inr ⟨c, hlast, h⟩
  · rintro (h | ⟨e, he, h⟩)
    · exact absurd h hapart
    · cases hlast.symm.trans he
      exact h

end Calls

/-! ## A server that is lost -/

/-- Two requests, of a host name each. -/
def twoNames : Caller → String
  | .first => "a.org"
  | .second => "b.org"

/-- A file that lists one server. -/
def oneServer : Option (List Char) := some (writeTime (some "c.org"))

/-- Both calls load the file, then both save it. -/
def overlap : List Caller := [.first, .second, .first, .second]

/-- What the two calls leave. -/
def overlapped : Writers Char :=
  ((Writers.machine timeLibrary twoNames).exec (Writers.start oneServer) overlap).get (by decide)

lemma exec_overlap : (Writers.machine timeLibrary twoNames).exec (Writers.start oneServer) overlap
    = some overlapped :=
  (Option.some_get _).symm

lemma done_overlapped : overlapped.Done := by
  intro c
  cases c <;> rfl

lemma ntpServers_overlapped : ntpServers timeLibrary overlapped.file = ["b.org", "c.org"] := by
  decide +kernel

/-- `overlapping_writes`, of the two names. -/
theorem overlapping_names :
    Serial timeLibrary twoNames oneServer overlapped.file ↔
      Harmless timeLibrary twoNames oneServer overlap := by
  have hconf : timeLibrary.Keeps IsName IsTimeFile oneServer := by
    have hnames : ∀ server ∈ ["c.org"], IsName server := List.forall_mem_singleton.mpr (by decide)
    have hkeeps := timeLibrary_keeps hnames
    rw [joinServers_singleton] at hkeeps
    exact hkeeps
  have hnames : ∀ c, IsServerList IsName (twoNames c) := by
    intro c
    refine ⟨[twoNames c], List.forall_mem_singleton.mpr ?_, (joinServers_singleton _).symm⟩
    cases c <;> decide
  exact (overlapping_writes timeLibrary twoNames oneServer overlap overlapped exec_overlap
    done_overlapped).2 IsName IsTimeFile timeLibrary_lawful hconf hnames

/-- The server of the call that saves first is lost. -/
theorem ntpServer_lost :
    ¬ ∀ (ntpServer : Caller → String) (conf : Option (List Char)) (order : List Caller)
      (w : Writers Char), (Writers.machine timeLibrary ntpServer).exec (Writers.start conf) order
        = some w → w.Done → Serial timeLibrary ntpServer conf w.file := by
  intro h
  obtain ⟨c, hc⟩ := h twoNames oneServer overlap overlapped exec_overlap done_overlapped
  rw [ntpServers_overlapped] at hc
  cases c with
  | first => exact absurd hc (by decide +kernel)
  | second => exact absurd hc (by decide +kernel)

end Snapweb
