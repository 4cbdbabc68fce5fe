import Tiai.Agent.Queue
import Tiai.Agent.ToolOutput
import Tiai.Command.Server

/-!
# The replay of the queued results

`flushQueue` (`internal/agent/agent.go`) posts the queued results, oldest first, until one is not accepted;
`command_result` answers.  Its text columns are PostgreSQL's, where U+0000 is an error.

* `answerResult` — the status code of the answer, and the commands after it;
* `flushQueue` — the replay;
* `accepted_iff` — a result is accepted in every state exactly when the text it was made of shows no NUL;
* `no_jam_iff` — and a queue is emptied in every state exactly when no result of it does.
-/

namespace Tiai.Replay

open Lib Utf8 Console ResultQueue

/-! ### The answer -/

/-- A value of a text column. -/
def Storable (t : Option String) : Prop := ∀ s ∈ t, NulFree s

instance (t : Option String) : Decidable (Storable t) := inferInstanceAs (Decidable (∀ s ∈ t, NulFree s))

/-- The texts that `command_result` writes. -/
def storableRow (c : Command) : Bool := Storable c.resultOutput ∧ Storable c.error

/-- `command_result`, for a machine whose token is accepted: a row that cannot be stored is a 500. -/
def answerResult (commands : List Command) (machine : Machine) (commandId : Uuid) (payload : CommandResult)
    (now : Time) : ℕ × List Command :=
  match commandResult commands machine commandId payload now with
  | (_, .invalid) => (422, commands)
  | (_, .ignored) => (200, commands)
  | (written, .ok) =>
    if (written.filter fun c => c.id = commandId).all storableRow then (200, written) else (500, commands)

/-- `Client.do` takes the answer for a success. -/
def accepted (status : ℕ) : Bool := status < 300

/-! ### The replay -/

section

variable {ρ σ : Type}

lemma length_remove {fails : Bool} {path : Name} {d d' : Dir ρ} (h : remove fails path d = (false, d')) :
    d'.files.length < d.files.length := by
  unfold remove at h
  split at h
  · cases h
  · rename_i hpath
    rw [← (Prod.mk.inj h).2]
    refine length_without ?_
    simp only [Bool.or_eq_true, decide_eq_true_eq, not_or, not_not] at hpath
    exact hpath.2

lemma mem_of_remove {fails : Bool} {path : Name} {d d' : Dir ρ} (h : remove fails path d = (false, d')) {f : File ρ}
    (hf : f ∈ d'.files) : f ∈ d.files := by
  unfold remove at h
  split at h
  · cases h
  · rw [← (Prod.mk.inj h).2] at hf
    exact (mem_without.1 hf).1

/-- What is left of the directory by a delivered result. -/
lemma length_delivered {faults : Faults} {fails : Bool} {path : Name}
    {found : Except PeekError (Option (Item ρ × Name))} {d peeked rest : Dir ρ} (hpeek : peek faults d = (found, peeked))
    (hremove : remove fails path peeked = (false, rest)) : rest.files.length < d.files.length := by
  have hsnd : (peek faults d).2 = peeked := congrArg Prod.snd hpeek
  have hpeeked : peeked.files.length ≤ d.files.length := hsnd ▸ length_peek
  exact (length_remove hremove).trans_le hpeeked

/-- `flushQueue`, where `post` is the request: whether it succeeds, and the server after it. -/
def flushQueue (post : Item ρ → σ → Bool × σ) (faults : Faults) (d : Dir ρ) (s : σ) : Dir ρ × σ :=
  match hpeek : peek faults d with
  | (.error _, peeked) => (peeked, s)
  | (.ok none, peeked) => (peeked, s)
  | (.ok (some (item, path)), peeked) =>
    match post item s with
    | (false, s') => (peeked, s')
    | (true, s') =>
      match hremove : remove (faults.removeFile path) path peeked with
      | (true, rest) => (rest, s')
      | (false, rest) =>
        have _ : rest.files.length < d.files.length := length_delivered hpeek hremove
        flushQueue post faults rest s'
termination_by d.files.length

/-! ### Replays that end, and replays that do not -/

variable {post : Item ρ → σ → Bool × σ} {faults : Faults} {d : Dir ρ} {f : File ρ} {s : σ}

/-- No operation of the file system fails. -/
def Faults.None (faults : Faults) : Prop :=
  faults.readDir = false ∧ (∀ name, faults.readFile name = false) ∧ ∀ name, faults.removeFile name = false

/-- Files that are there are read, and those that are corrupt removed. -/
lemma peekFiles_healthy (hfaults : Faults.None faults) {names : List Name} (hnodup : names.Nodup)
    (hnames : ∀ n ∈ names, n ∈ d.files.map File.name) :
    (∀ error, (peekFiles faults names d).1 ≠ .error error) ∧
      ((peekFiles faults names d).1 = .ok none →
        ∀ g ∈ (peekFiles faults names d).2.files, g ∈ d.files ∧ g.name ∉ names) := by
  induction names generalizing d with
  | nil =>
    unfold peekFiles
    exact ⟨fun _ h => (by cases h), fun _ g hg => ⟨hg, List.not_mem_nil⟩⟩
  | cons name names ih =>
    obtain ⟨g, hg, hname⟩ := List.mem_map.1 (hnames name List.mem_cons_self)
    have hrow : rowOf File.name d.files name = some g := (rowOf_eq_some_iff d.unique).2 ⟨hg, hname⟩
    unfold peekFiles
    rw [hfaults.2.1, hrow, hfaults.2.2]
    dsimp only [Bool.false_eq_true, if_false]
    cases hcontent : g.content with
    | some item => exact ⟨fun _ h => (by cases h), fun h => (by cases h)⟩
    | none =>
      have hrest : ∀ n ∈ names, n ∈ (d.without name).files.map File.name := by
        intro n hn
        obtain ⟨x, hx, hxname⟩ := List.mem_map.1 (hnames n (List.mem_cons_of_mem _ hn))
        have hne : n ≠ name := fun heq => (List.nodup_cons.1 hnodup).1 (heq ▸ hn)
        exact List.mem_map.2 ⟨x, mem_without.2 ⟨hx, hxname ▸ hne⟩, hxname⟩
      obtain ⟨hno, hleft⟩ := ih (List.nodup_cons.1 hnodup).2 hrest
      refine ⟨hno, fun h x hx => ?_⟩
      obtain ⟨hmem, hxname⟩ := hleft h x hx
      obtain ⟨hd, hne⟩ := mem_without.1 hmem
      exact ⟨hd, fun hcons => (List.mem_cons.1 hcons).elim hne hxname⟩

lemma peek_healthy (hfaults : Faults.None faults) :
    (∀ error, (peek faults d).1 ≠ .error error) ∧
      ((peek faults d).1 = .ok none → (peek faults d).2.files = []) := by
  have hlist : listFiles faults d = some d.names := by
    rw [listFiles, hfaults.1]
    rfl
  have hpeek : peek faults d = peekFiles faults d.names d := by rw [peek, hlist]
  obtain ⟨hno, hleft⟩ := peekFiles_healthy hfaults (d := d) nodup_names fun n hn => mem_names.1 hn
  rw [hpeek]
  refine ⟨hno, fun h => List.eq_nil_iff_forall_not_mem.2 fun g hg => ?_⟩
  obtain ⟨hd, hname⟩ := hleft h g hg
  exact hname (mem_names.2 (List.mem_map_of_mem hd))

/-- What is peeked is a file of the directory, which stays. -/
lemma exists_of_peek {item : Item ρ} {path : Name} {peeked : Dir ρ}
    (h : peek faults d = (.ok (some (item, path)), peeked)) :
    ∃ g ∈ d.files, g.name = path ∧ g.content = some item ∧ g ∈ peeked.files := by
  obtain ⟨g, hg, hname, hcontent, -⟩ := oldest_of_peek (congrArg Prod.fst h)
  have hstays : g ∈ (peek faults d).2.files := peek_kept hg (by rw [hcontent]; rfl)
  rw [h] at hstays
  exact ⟨g, hg, hname, hcontent, hstays⟩

/-- **A queue whose results are all accepted is emptied.** -/
theorem flushQueue_empties (hfaults : Faults.None faults) (hpost : ∀ f ∈ d.files, ∀ item, f.content = some item →
    ∀ s, (post item s).1 = true) (s : σ) : (flushQueue post faults d s).1.files = [] := by
  fun_induction flushQueue post faults d s with
  | case1 d s error peeked hpeek => exact absurd (congrArg Prod.fst hpeek) ((peek_healthy hfaults).1 error)
  | case2 d s peeked hpeek =>
    have hsnd : (peek faults d).2 = peeked := congrArg Prod.snd hpeek
    exact hsnd ▸ (peek_healthy hfaults).2 (congrArg Prod.fst hpeek)
  | case3 d s item path peeked hpeek s' hanswer =>
    obtain ⟨g, hg, -, hcontent, -⟩ := exists_of_peek hpeek
    have htrue := hpost g hg item hcontent s
    rw [hanswer] at htrue
    cases htrue
  | case4 d s item path peeked hpeek s' hanswer rest hremove =>
    obtain ⟨g, -, rfl, -, hstays⟩ := exists_of_peek hpeek
    unfold remove at hremove
    rw [hfaults.2.2, if_neg (by simpa using ⟨g, hstays, rfl⟩)] at hremove
    cases hremove
  | case5 d s item path peeked hpeek s' hanswer rest hremove _ ih =>
    refine ih fun f hf => hpost f ?_
    have hsnd : (peek faults d).2 = peeked := congrArg Prod.snd hpeek
    exact mem_of_peek (hsnd ▸ mem_of_remove hremove hf)

/-- **A result that is refused stays**, whatever is replayed. -/
theorem flushQueue_keeps {I : σ → Prop} {refused : Item ρ} (hf : f ∈ d.files) (hcontent : f.content = some refused)
    (hrefused : ∀ s, I s → (post refused s).1 = false) (hI : ∀ item s, I s → I (post item s).2) (hs : I s) :
    f ∈ (flushQueue post faults d s).1.files := by
  have hkept : ∀ {d peeked : Dir ρ} {found}, peek faults d = (found, peeked) → f ∈ d.files → f ∈ peeked.files := by
    intro d peeked found hpeek hf
    have hsnd : (peek faults d).2 = peeked := congrArg Prod.snd hpeek
    exact hsnd ▸ peek_kept hf (by rw [hcontent]; rfl)
  fun_induction flushQueue post faults d s with
  | case1 d s error peeked hpeek => exact hkept hpeek hf
  | case2 d s peeked hpeek => exact hkept hpeek hf
  | case3 d s item path peeked hpeek s' hanswer => exact hkept hpeek hf
  | case4 d s item path peeked hpeek s' hanswer rest hremove =>
    unfold remove at hremove
    split at hremove
    · exact (Prod.mk.inj hremove).2 ▸ hkept hpeek hf
    · cases hremove
  | case5 d s item path peeked hpeek s' hanswer rest hremove _ ih =>
    obtain ⟨g, hg, hname, hitem, -⟩ := exists_of_peek hpeek
    have hother : f.name ≠ path := by
      intro heq
      have hsame : f = g := eq_of_key_eq d.unique hf hg (heq.trans hname.symm)
      rw [← hsame, hcontent] at hitem
      have hfalse := hrefused s hs
      rw [Option.some.inj hitem, hanswer] at hfalse
      cases hfalse
    have hrest : f ∈ rest.files := by
      unfold remove at hremove
      split at hremove
      · cases hremove
      · rw [← (Prod.mk.inj hremove).2]
        exact mem_without.2 ⟨hkept hpeek hf, hother⟩
    have hstate : I s' := by
      have := hI item s hs
      rwa [hanswer] at this
    exact ih hrest hstate

end

/-! ### What is accepted -/

variable {machine : Machine} {payload r : CommandResult} {commands : List Command} {id : Uuid} {now : Time}
  {c c' : Command}

lemma nulFree_relayLabel (h : Storable machine.hostname) : NulFree (relayLabel machine) := by
  unfold relayLabel
  cases hpresent : present machine.hostname with
  | none => exact nulFree_toString _
  | some name => exact h name (Option.eq_some_of_filter_eq_some hpresent)

lemma id_of_find (h : commands.find? (fun c => c.id = id) = some c) : c.id = id := by
  simpa using List.find?_some h

/-- A row that is written has its texts from the result, signed by the relay if there is one. -/
lemma storable_of_resultRow (hhost : Storable machine.hostname) (hfinal : r.status ≠ .running)
    (hout : Storable r.output) (herr : Storable r.error) (h : resultRow machine r now c = some c') :
    storableRow c' = true := by
  have hsign : ∀ t : Option String, Storable t →
      Storable (t.map fun t => if t = "" then t else "Relayé par " ++ relayLabel machine ++ " — " ++ t) := by
    intro t ht s hs
    obtain ⟨u, hu, rfl⟩ := Option.map_eq_some_iff.1 hs
    split
    · exact ht u hu
    · exact ((nulFree_relayLabel hhost).between (by decide) (by decide)).append (ht u hu)
  unfold resultRow at h
  dsimp only at h
  split at h
  · cases h
  split at h
  · cases h
  -- the status is final, and a text is signed or left as it is
  split at h
  · rw [← Option.some.inj h]
    exact decide_eq_true ⟨hsign _ hout, hsign _ herr⟩
  · rw [← Option.some.inj h]
    exact decide_eq_true ⟨hout, herr⟩

/-- A result whose texts can be stored is accepted. -/
lemma accepted_of_storable (hhost : Storable machine.hostname) (hvalid : payload.validate = some r)
    (hfinal : r.status ≠ .running) (hout : Storable r.output) (herr : Storable r.error) (commands : List Command)
    (id : Uuid) (now : Time) : accepted (answerResult commands machine id payload now).1 = true := by
  unfold answerResult commandResult
  rw [hvalid]
  dsimp only
  cases hfind : commands.find? fun c => c.id = id with
  | none => rfl
  | some c =>
    dsimp only
    cases hrow : resultRow machine r now c with
    | none => rfl
    | some c' =>
      dsimp only
      rw [if_pos]
      · rfl
      · refine List.all_eq_true.2 fun x hx => ?_
        obtain ⟨hx, hid⟩ := List.mem_filter.1 hx
        obtain ⟨y, -, rfl⟩ := List.mem_map.1 hx
        by_cases hy : y.id = id
        · rw [if_pos hy]
          exact storable_of_resultRow hhost hfinal hout herr hrow
        · rw [if_neg hy] at hid
          exact absurd (of_decide_eq_true hid) hy

/-- The command is there, and is the machine's own. -/
def Owned (machine : Machine) (id : Uuid) (commands : List Command) : Prop :=
  ∃ c, commands.find? (fun c => c.id = id) = some c ∧ c.machineId = machine.id ∧ c.relayMachineId = none

/-- A result whose texts cannot be stored is refused, while its command is there. -/
lemma refused_of_owned (hvalid : payload.validate = some r) (hfinal : r.status ≠ .running)
    (hnot : ¬ (Storable r.output ∧ Storable r.error)) (h : Owned machine id commands) :
    accepted (answerResult commands machine id payload now).1 = false := by
  obtain ⟨c, hfind, hmachine, hrelay⟩ := h
  have hid : c.id = id := id_of_find hfind
  let c' : Command :=
    { c with
      status := r.status
      resultOutput := r.output
      error := r.error
      finishedAt := some now }
  have hrow : resultRow machine r now c = some c' := by
    unfold resultRow
    rw [hrelay, hmachine]
    simp [hfinal, c', hrelay, hmachine]
  have hunstorable : storableRow c' = false := by
    unfold storableRow
    rw [decide_eq_false_iff_not]
    exact hnot
  unfold answerResult commandResult
  rw [hvalid]
  dsimp only
  rw [hfind]
  dsimp only
  rw [hrow]
  dsimp only
  rw [if_neg]
  · rfl
  · intro hall
    have hmem : c' ∈ (commands.map fun x => if x.id = id then c' else x).filter fun x => x.id = id := by
      refine List.mem_filter.2 ⟨List.mem_map.2 ⟨c, List.mem_of_find?_eq_some hfind, if_pos hid⟩, ?_⟩
      exact decide_eq_true hid
    have htrue := List.all_eq_true.1 hall c' hmem
    rw [hunstorable] at htrue
    cases htrue

/-- No result takes a command away, or gives it to another machine. -/
lemma Owned.answer {id' : Uuid} (h : Owned machine id commands) :
    Owned machine id (answerResult commands machine id' payload now).2 := by
  have hkept : ∀ (c' : Command), c'.id = id' → (id' = id → c'.machineId = machine.id ∧ c'.relayMachineId = none) →
      Owned machine id (commands.map fun x => if x.id = id' then c' else x) := by
    intro c' hid' hsame
    obtain ⟨c, hfind, hmachine, hrelay⟩ := h
    have hid : c.id = id := id_of_find hfind
    have hfind' : (commands.map fun x => if x.id = id' then c' else x).find? (fun c => c.id = id) =
        some (if c.id = id' then c' else c) := by
      rw [List.find?_map]
      have hcomp : (fun x : Command => decide (x.id = id)) ∘ (fun x => if x.id = id' then c' else x) =
          fun x => decide (x.id = id) := by
        funext x
        by_cases hx : x.id = id'
        · simp [hx, hid']
        · simp [hx]
      rw [hcomp, hfind, Option.map_some]
    refine ⟨_, hfind', ?_⟩
    by_cases hc : c.id = id'
    · rw [if_pos hc]
      exact hsame (hc.symm.trans hid)
    · rw [if_neg hc]
      exact ⟨hmachine, hrelay⟩
  unfold answerResult commandResult
  cases payload.validate with
  | none => exact h
  | some r =>
    dsimp only
    cases hfind : commands.find? fun c => c.id = id' with
    | none => exact h
    | some c =>
      dsimp only
      cases hrow : resultRow machine r now c with
      | none => exact h
      | some c' =>
        dsimp only
        split
        · have hid : c.id = id' := id_of_find hfind
          refine hkept c' ((resultRow_id hrow).trans hid) fun hsame => ?_
          obtain ⟨x, hx, hmachine, hrelay⟩ := h
          rw [← hsame, hfind] at hx
          obtain rfl := Option.some.inj hx
          unfold resultRow at hrow
          grind
        · exact h

/-! ### Results of tools -/

/-- What a tool of the catalogue printed, and the code it exited with. -/
structure Print where
  type : String
  spec : MaintenanceSpec
  known : (type, spec) ∈ maintenanceTools
  raw : Bytes
  code : ℤ

def Print.result (p : Platform) (t : Print) : CommandResult := resultOf p t.spec t.raw (.exited t.code)

/-- The decoded text has a NUL that no carriage return follows on its line, rendered among the first 64 KiB. -/
def Print.ShowsNul (p : Platform) (t : Print) : Prop :=
  Console.ShowsNul maxOutputBytes (decodeToolOutput p t.raw t.spec.enc)

lemma storable_boundResultText {t : Option String} (h : Storable t) : Storable (boundResultText t) := by
  intro s hs
  obtain ⟨u, hu, rfl⟩ := Option.map_eq_some_iff.1 hs
  split
  · exact h u hu
  · refine NulFree.append (fun hmem => ?_) (nulFree_ofList (by decide))
    rw [String.toList_ofList] at hmem
    exact h u hu (List.mem_of_mem_take hmem)

/-- A NUL among the first bytes is among the first characters. -/
lemma not_storable_boundResultText {x y : Bytes} (hlength : x.length < maxOutputBytes) :
    ¬ Storable (boundResultText (posted (x ++ 0 :: y))) := by
  have hposted : posted (x ++ 0 :: y) = some (String.ofList (text x ++ '\x00' :: text y)) := by
    rw [posted, if_neg (by simp), text_append_nul]
  rw [hposted, boundResultText, Option.map_some]
  intro h
  have hfree := h _ rfl
  have hshort : (text x).length < resultTextMax := (length_text_le x).trans_lt hlength
  split at hfree
  · rw [NulFree, String.toList_ofList] at hfree
    exact hfree (List.mem_append_right _ List.mem_cons_self)
  · rw [NulFree, String.toList_append, String.toList_ofList, String.toList_ofList] at hfree
    refine hfree (List.mem_append_left _ ?_)
    rw [List.append_cons, List.take_append, List.take_of_length_le (List.length_append.trans_le hshort)]
    exact List.mem_append_left _ (List.mem_append_right _ (List.mem_singleton_self _))

/-- The texts that the server would store, of the result of a tool. -/
lemma exists_validated (p : Platform) (t : Print) : ∃ r, (t.result p).validate = some r ∧ r.status ≠ .running ∧
    (Storable r.output ∧ Storable r.error ↔ ¬ t.ShowsNul p) := by
  have hverdict := addsNoNul_of_mem t.known
  have hshows : 0 ∈ (runMaintenance p t.spec t.raw (.exited t.code)).1 ↔ t.ShowsNul p := nul_mem_runMaintenance hverdict
  have hstatus : (t.result p).status ∈ agentReportableStatuses ∧ (t.result p).status ≠ .running := by
    unfold Print.result resultOf Verdict.toResult
    dsimp only
    split <;> decide
  refine ⟨_, if_pos hstatus.1, hstatus.2, ?_⟩
  change Storable (boundResultText (posted (runMaintenance p t.spec t.raw (.exited t.code)).1)) ∧
    Storable (boundResultText ((runMaintenance p t.spec t.raw (.exited t.code)).2.bind posted)) ↔ ¬ t.ShowsNul p
  rw [← hshows]
  constructor
  · rintro ⟨hout, -⟩ hnul
    obtain ⟨x, y, hxy, hlength⟩ := exists_of_runMaintenance hverdict hnul
    rw [hxy] at hout
    exact not_storable_boundResultText hlength hout
  · intro hfree
    refine ⟨storable_boundResultText (nulFree_posted.2 hfree), storable_boundResultText fun s hs => ?_⟩
    obtain ⟨e, he, hposted⟩ := Option.bind_eq_some_iff.1 hs
    exact nulFree_posted.2 (fun hnul => hfree (nul_mem_error hverdict he hnul)) s hposted

/-- The command of a result, as it was when the agent was handed it. -/
def handed (machine : Machine) (id : Uuid) : Command := .new id machine.id .gpoReport none 0 0 none

lemma owned_handed (machine : Machine) (id : Uuid) : Owned machine id [handed machine id] :=
  ⟨handed machine id, List.find?_cons_of_pos (decide_eq_true rfl), rfl, rfl⟩

/-- **One result** is accepted in every state of the server exactly when the text it was made of shows no NUL. -/
theorem accepted_iff (p : Platform) (hhost : Storable machine.hostname) (t : Print) (id : Uuid) (now : Time) :
    (∀ commands, accepted (answerResult commands machine id (t.result p) now).1 = true) ↔ ¬ t.ShowsNul p := by
  obtain ⟨r, hvalid, hfinal, htexts⟩ := exists_validated p t
  rw [← htexts]
  constructor
  · intro hall
    by_contra hnot
    have hfalse : accepted (answerResult [handed machine id] machine id (t.result p) now).1 = false :=
      refused_of_owned hvalid hfinal hnot (owned_handed machine id)
    rw [hall] at hfalse
    cases hfalse
  · rintro ⟨hout, herr⟩ commands
    exact accepted_of_storable hhost hvalid hfinal hout herr commands id now

/-- The request of `PostResult`, whose path has the identifier of the command. -/
def postResult (p : Platform) (machine : Machine) (ids : String → Uuid) (now : Time) (item : Item Print)
    (commands : List Command) : Bool × List Command :=
  let (status, commands) := answerResult commands machine (ids item.commandId) (item.result.result p) now
  (accepted status, commands)

/-- **The queue is not jammed.**  A result is accepted in every state of the server, whether its command is there, is
finished or is gone, exactly when the text it was made of shows no NUL; and the replay empties a queue of results in
every state exactly when none of them shows one. -/
theorem no_jam_iff (p : Platform) (machine : Machine) (hhost : Storable machine.hostname) (ids : String → Uuid)
    (faults : Faults) (hfaults : Faults.None faults) (now : Time) :
    (∀ (t : Print) (id : Uuid),
      (∀ commands, accepted (answerResult commands machine id (t.result p) now).1 = true) ↔ ¬ t.ShowsNul p) ∧
    ∀ d : Dir Print, (∀ commands, (flushQueue (postResult p machine ids now) faults d commands).1.files = []) ↔
      ∀ f ∈ d.files, ∀ item, f.content = some item → ¬ item.result.ShowsNul p := by
  refine ⟨fun t id => accepted_iff p hhost t id now, fun d => ⟨fun hall f hf item hitem hshows => ?_, ?_⟩⟩
  · -- where its command is there, it stays
    obtain ⟨r, hvalid, hfinal, htexts⟩ := exists_validated p item.result
    have hnot : ¬ (Storable r.output ∧ Storable r.error) := fun h => htexts.1 h hshows
    have hstays : f ∈ (flushQueue (postResult p machine ids now) faults d
        [handed machine (ids item.commandId)]).1.files :=
      flushQueue_keeps (I := Owned machine (ids item.commandId)) hf hitem
        (fun _ howned => refused_of_owned hvalid hfinal hnot howned) (fun _ _ howned => howned.answer)
        (owned_handed machine (ids item.commandId))
    rw [hall] at hstays
    cases hstays
  · intro hfree commands
    refine flushQueue_empties hfaults (fun f hf item hitem s => ?_) commands
    exact (accepted_iff p hhost item.result (ids item.commandId) now).2 (hfree f hf item hitem) s

/-! ### A report with a NUL -/

/-- A Windows that converts nothing. -/
def unconverted : Platform := ⟨fun _ _ => none, fun _ => [], fun _ => List.not_mem_nil⟩

def poste : Machine := .new 1 "5f0c" 0

lemma storable_poste : Storable poste.hostname := fun _ h => (by cases h)

/-- A report of the group policies, in UTF-8. -/
def gpoReport (cs : List Char) : Print where
  type := "gpo_report"
  spec := ⟨.oem, verdictExitCode⟩
  known := by simp [maintenanceTools]
  raw := encode cs
  code := 0

/-- Text in UTF-8 is taken as it is. -/
lemma decodeToolOutput_encode {p : Platform} {cs : List Char} {enc : ToolEncoding} (henc : enc ≠ .utf16le)
    (hbyte : (encode cs).any fun c => 0x80 ≤ c) : decodeToolOutput p (encode cs) enc = encode cs := by
  have hutf8 : isProbablyUTF8 (encode cs) = true := by rw [isProbablyUTF8, validUtf8_encode, Bool.true_and, hbyte]
  rw [decodeToolOutput, if_neg fun h => henc h.1, if_pos hutf8]

/-- A queue of one report. -/
def queued (cs : List Char) : Dir Print :=
  ⟨[⟨toLex (1, "_a.json"), some ⟨"a", gpoReport cs, some 1⟩⟩], List.nodup_singleton _⟩

theorem no_jam_iff_plain : (flushQueue (postResult unconverted poste (fun _ => 0) 0) noFaults (queued ['é'])
    [handed poste 0]).1.files = [] := by
  refine ((no_jam_iff unconverted poste storable_poste (fun _ => 0) noFaults
    ⟨rfl, fun _ => rfl, fun _ => rfl⟩ 0).2 (queued ['é'])).2 ?_ [handed poste 0]
  intro f hf item hitem hshows
  obtain rfl := List.mem_singleton.1 hf
  obtain rfl := Option.some.inj hitem
  rw [Print.ShowsNul, gpoReport, decodeToolOutput_encode (by decide) (by decide)] at hshows
  obtain ⟨before, after, hsplit, -⟩ := hshows
  have hnul : 0 ∈ encode ['é'] := hsplit ▸ List.mem_append_right _ List.mem_cons_self
  exact absurd (nul_mem_encode.1 hnul) (by decide)

/-- The report is refused for as long as its command is there. -/
theorem report_refused : ¬ ∀ (p : Platform) (machine : Machine) (t : Print) (id : Uuid) (commands : List Command)
    (now : Time), Storable machine.hostname →
      accepted (answerResult commands machine id (t.result p) now).1 = true := by
  intro hall
  have hshows : (gpoReport ['é', '\x00', 'A']).ShowsNul unconverted := by
    rw [Print.ShowsNul, gpoReport, decodeToolOutput_encode (by decide) (by decide)]
    refine ⟨encode ['é'], encode ['A'], by decide, by decide, ?_⟩
    obtain ⟨after, htrim⟩ := trimSpace_infix (screen (foldCrLf (encode ['é'] ++ [0])))
    have hlength := congrArg List.length htrim
    have hscreen : (screen (foldCrLf (encode ['é'] ++ [0]))).length = 3 := by decide
    rw [List.length_append, List.length_append, hscreen] at hlength
    rw [normalizeConsoleOutput_eq, maxOutputBytes]
    omega
  exact (accepted_iff unconverted storable_poste (gpoReport ['é', '\x00', 'A']) 0 0).1
    (fun commands => hall unconverted poste _ 0 commands 0 storable_poste) hshows

end Tiai.Replay
