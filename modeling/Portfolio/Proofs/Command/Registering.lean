/-
  File:      Portfolio/Proofs/Command/Registering.lean
  Subject:   A registry is written once for each command.

  * `Request`, `serve`: a registration in either form, or a lookup; what it is answered, and
    the registry that it leaves. `run`: requests one after the other, on an empty registry.
  * `Served`: all that a request can do to a registry. `serve_served`: it does one of these.
  * `FirstAt`: the place among the requests where a command is first registered.
    `exists_placed`: the entries are those of these places, in their order.
  * `WritesOnce`: the entries of a run, and what they make of one more request.
    `run_writesOnce`: so it is after every run.
-/
import Mathlib.Data.List.Induction
import Portfolio.Command.Builtin

namespace Portfolio

namespace Command

theorem ofCanonical?_eq_some_iff {word : String} {c : Command} :
    ofCanonical? word = some c ↔ c.word = word := by
  constructor
  · intro h
    simpa using List.find?_some h
  · rintro rfl
    cases c <;> decide

/-- A word is no command's exactly if no command is found for it. -/
theorem ofCanonical?_eq_none_iff {word : String} :
    ofCanonical? word = none ↔ ∀ c : Command, c.word ≠ word := by
  simp only [Option.eq_none_iff_forall_ne_some, ne_eq, ofCanonical?_eq_some_iff]

/-- Two commands have two canonical words. -/
theorem word_inj {c d : Command} : c.word = d.word ↔ c = d := by
  refine ⟨fun h => ?_, congrArg word⟩
  have hc := ofCanonical?_eq_some_iff.mpr h
  rw [ofCanonical?_eq_some_iff.mpr rfl] at hc
  exact (Option.some.inj hc).symm

end Command

namespace Registry

/-! ## 1. Requests -/

/-- What can be asked of a registry: to register a handler, given at once or last, and to
    look up a word. -/
inductive Request (α : Type) where
  | register (word : String) (handler : α) (description : String)
  | command (word description : String) (handler : α)
  | get (word : String)

/-- What it answers: the handler that is registered, why it is not, or what is found. -/
inductive Answer (α : Type) where
  | registered (handler : α)
  | refused (error : RegistryError)
  | found (entry : Option (RegistryEntry α))

variable {α : Type}

/-- The answer to a registration, and the registry that it leaves, refused or not. -/
def settle (r : Registry α) (registration : RegistryM α α) : Answer α × Registry α :=
  match registration.run.run r with
  | (.ok handler, r) => (.registered handler, r)
  | (.error e, r) => (.refused e, r)

/-- The answer to a request, and the registry after it. -/
def serve (r : Registry α) : Request α → Answer α × Registry α
  | .register word handler description => r.settle (enter word handler description)
  | .command word description handler => r.settle (command word description handler)
  | .get word => (.found (r.get? word), r)

/-- The registry after the requests, when it was empty before them. -/
def run (requests : List (Request α)) : Registry α :=
  requests.foldl (fun r q => (r.serve q).2) {}

theorem run_concat (requests : List (Request α)) (q : Request α) :
    run (requests ++ [q]) = ((run requests).serve q).2 :=
  List.foldl_append

/-- The commands that are registered. -/
def commands (r : Registry α) : List Command :=
  r.entries.map (·.command)

/-- The word that the request wants registered. -/
def Request.word? : Request α → Option String
  | .register word _ _ => some word
  | .command word _ _ => some word
  | .get _ => none

/-- The request wants the entry registered, by the canonical word of its command. -/
def Request.Registers (q : Request α) (e : RegistryEntry α) : Prop :=
  q = .register e.command.word e.handler e.description ∨
    q = .command e.command.word e.description e.handler

variable {r : Registry α} {q : Request α} {e : RegistryEntry α} {c : Command} {word : String}
  {requests : List (Request α)}

/-- It wants no other entry registered. -/
theorem Request.Registers.inj {e' : RegistryEntry α} (h : q.Registers e) (h' : q.Registers e') :
    e = e' := by
  obtain ⟨command, handler, description⟩ := e
  obtain ⟨command', handler', description'⟩ := e'
  obtain rfl | rfl := h
  · simpa [Request.Registers, Command.word_inj] using h'
  · have he : command = command' ∧ description = description' ∧ handler = handler' := by
      simpa [Request.Registers, Command.word_inj] using h'
    obtain ⟨rfl, rfl, rfl⟩ := he
    rfl

theorem Request.Registers.word? (h : q.Registers e) : q.word? = some e.command.word := by
  obtain rfl | rfl := h <;> rfl

theorem Request.Registers.word_eq (h : q.Registers e) (hw : q.word? = some word) :
    e.command.word = word :=
  Option.some.inj (h.word?.symm.trans hw)

/-! ## 2. What one request does -/

/-- All that a request can do to a registry. -/
inductive Served (r : Registry α) : Request α → Answer α × Registry α → Prop where
  | found (word : String) : Served r (.get word) (.found (r.get? word), r)
  | noCommand {q : Request α} {word : String} (hw : q.word? = some word)
      (hn : ∀ c : Command, c.word ≠ word) : Served r q (.refused (.notACommand word), r)
  | again {q : Request α} {e : RegistryEntry α} (hq : q.Registers e) (hm : e.command ∈ r.commands) :
      Served r q (.refused (.alreadyRegistered e.command), r)
  | registered {q : Request α} {e : RegistryEntry α} (hq : q.Registers e)
      (hm : e.command ∉ r.commands) : Served r q (.registered e.handler, ⟨r.entries ++ [e]⟩)

theorem find?_eq_none_iff : r.find? c = none ↔ c ∉ r.commands := by
  unfold find? commands
  rw [List.find?_eq_none, List.mem_map, not_exists]
  simp

theorem run_enter_of_none {handler : α} {description : String}
    (h : Command.ofCanonical? word = none) :
    (enter word handler description).run.run r = (.error (.notACommand word), r) := by
  unfold enter
  rw [h]
  rfl

theorem run_enter_of_some {handler : α} {description : String}
    (h : Command.ofCanonical? word = some c) :
    (enter word handler description).run.run r =
      if (r.find? c).isSome then (.error (.alreadyRegistered c), r)
      else (.ok handler, ⟨r.entries ++ [⟨c, handler, description⟩]⟩) := by
  unfold enter
  rw [h]
  show StateT.run (ExceptT.run (if (r.find? c).isSome then _ else _)) r = _
  split <;> rfl

theorem served_settle {handler : α} {description : String} (hw : q.word? = some word)
    (hr : ∀ c : Command, c.word = word → q.Registers ⟨c, handler, description⟩) :
    Served r q (r.settle (enter word handler description)) := by
  unfold settle
  cases hc : Command.ofCanonical? word with
  | none =>
    rw [run_enter_of_none hc]
    exact .noCommand hw (Command.ofCanonical?_eq_none_iff.mp hc)
  | some c =>
    have hq := hr c (Command.ofCanonical?_eq_some_iff.mp hc)
    rw [run_enter_of_some hc]
    cases hf : r.find? c with
    | none => exact .registered hq (find?_eq_none_iff.mp hf)
    | some e =>
      refine .again hq ?_
      refine Classical.byContradiction fun hm => ?_
      rw [find?_eq_none_iff.mpr hm] at hf
      cases hf

/-- **A request does one of these things.** -/
theorem serve_served (r : Registry α) (q : Request α) : Served r q (r.serve q) := by
  cases q with
  | register word handler description =>
    refine served_settle rfl fun c hc => .inl ?_
    rw [← hc]
  | command word description handler =>
    refine served_settle rfl fun c hc => .inr ?_
    rw [← hc]
  | get word => exact .found word

/-- What is registered after a request was so before, or the request wants it registered. -/
theorem mem_commands_serve :
    c ∈ (r.serve q).2.commands ↔ c ∈ r.commands ∨ q.word? = some c.word := by
  have hs := serve_served r q
  generalize r.serve q = served at hs
  cases hs with
  | found word => simp [Request.word?]
  | noCommand hw hn =>
    rw [hw, Option.some_inj]
    exact ⟨.inl, fun h => h.elim id fun e => absurd e.symm (hn c)⟩
  | again hq hm =>
    rw [hq.word?, Option.some_inj, Command.word_inj]
    exact ⟨.inl, fun h => h.elim id fun e => e ▸ hm⟩
  | registered hq hm =>
    rw [hq.word?, Option.some_inj, Command.word_inj]
    simp [commands, eq_comm]

/-- **The commands that a run registers are those whose word it names.** -/
theorem mem_commands_run :
    c ∈ (run requests).commands ↔ ∃ q ∈ requests, q.word? = some c.word := by
  induction requests using List.reverseRecOn with
  | nil => simp [run, commands]
  | append_singleton requests q ih =>
    rw [run_concat, mem_commands_serve, ih]
    simp [or_and_right, exists_or]

theorem notMem_commands_run :
    c ∉ (run requests).commands ↔ ∀ q ∈ requests, q.word? ≠ some c.word := by
  rw [mem_commands_run]
  simp

/-! ## 3. First registrations -/

/-- The request at the place wants the entry registered, and no request before it names the
    entry's command. -/
structure FirstAt (requests : List (Request α)) (i : Nat) (e : RegistryEntry α) : Prop where
  registers : ∃ q, requests[i]? = some q ∧ q.Registers e
  first : ∀ q ∈ requests.take i, q.word? ≠ some e.command.word

theorem FirstAt.lt {i : Nat} (h : FirstAt requests i e) : i < requests.length := by
  obtain ⟨q, hq, _⟩ := h.registers
  exact (List.getElem?_eq_some_iff.mp hq).1

/-- One more request leaves the first registrations before it as they are, -/
theorem firstAt_concat_of_lt {i : Nat} (hi : i < requests.length) :
    FirstAt (requests ++ [q]) i e ↔ FirstAt requests i e := by
  have htake : (requests ++ [q]).take i = requests.take i :=
    List.take_append_of_le_length (Nat.le_of_lt hi)
  have hget : (requests ++ [q])[i]? = requests[i]? := List.getElem?_append_left hi
  constructor
  · exact fun h => ⟨hget ▸ h.registers, htake ▸ h.first⟩
  · exact fun h => ⟨hget.symm ▸ h.registers, htake.symm ▸ h.first⟩

/-- and is one itself if it registers a command that is not registered. -/
theorem firstAt_concat_length : FirstAt (requests ++ [q]) requests.length e ↔
    q.Registers e ∧ e.command ∉ (run requests).commands := by
  have htake : (requests ++ [q]).take requests.length = requests := List.take_left
  have hget : (requests ++ [q])[requests.length]? = some q := List.getElem?_concat_length
  rw [notMem_commands_run]
  constructor
  · rintro ⟨⟨p, hp, he⟩, hf⟩
    rw [hget] at hp
    cases hp
    exact ⟨he, htake ▸ hf⟩
  · exact fun ⟨he, hf⟩ => ⟨⟨q, hget, he⟩, htake.symm ▸ hf⟩

theorem firstAt_concat {i : Nat} : FirstAt (requests ++ [q]) i e ↔
    FirstAt requests i e ∨
      i = requests.length ∧ q.Registers e ∧ e.command ∉ (run requests).commands := by
  constructor
  · intro h
    have hl := h.lt
    rw [List.length_append, List.length_singleton] at hl
    rcases Nat.lt_or_eq_of_le (Nat.le_of_lt_succ hl) with hi | rfl
    · exact .inl ((firstAt_concat_of_lt hi).mp h)
    · exact .inr ⟨rfl, firstAt_concat_length.mp h⟩
  · rintro (h | ⟨rfl, h⟩)
    · exact (firstAt_concat_of_lt h.lt).mpr h
    · exact firstAt_concat_length.mpr h

/-- The places of all first registrations, one after the other, with their entries. -/
structure Placed (requests : List (Request α)) (placed : List (Nat × RegistryEntry α)) : Prop where
  ascending : placed.Pairwise fun p p' => p.1 < p'.1
  mem_iff : ∀ i e, (i, e) ∈ placed ↔ FirstAt requests i e

/-- No two of them are of one command. -/
theorem Placed.nodup {placed : List (Nat × RegistryEntry α)} (h : Placed requests placed) :
    (placed.map (·.2.command)).Nodup := by
  rw [List.Nodup, List.pairwise_map]
  refine h.ascending.imp_of_mem fun {p p'} hp hp' hlt he => ?_
  obtain ⟨q, hq, hr⟩ := ((h.mem_iff p.1 p.2).mp hp).registers
  have hbefore : q ∈ requests.take p'.1 := by
    rw [List.mem_take_iff_getElem]
    obtain ⟨hl, rfl⟩ := List.getElem?_eq_some_iff.mp hq
    exact ⟨p.1, by omega, rfl⟩
  refine ((h.mem_iff p'.1 p'.2).mp hp').first q hbefore ?_
  rw [hr.word?, he]

/-- A request that leaves the commands as they are has no first registration. -/
theorem Placed.concat_of_kept {placed : List (Nat × RegistryEntry α)} (h : Placed requests placed)
    (hk : ∀ e, q.Registers e → e.command ∈ (run requests).commands) :
    Placed (requests ++ [q]) placed where
  ascending := h.ascending
  mem_iff i e := by
    rw [h.mem_iff, firstAt_concat]
    exact ⟨.inl, fun hf => hf.elim id fun ⟨_, hq, hm⟩ => absurd (hk e hq) hm⟩

/-- A request that registers one more command has its first registration last. -/
theorem Placed.concat {placed : List (Nat × RegistryEntry α)} (h : Placed requests placed)
    (hq : q.Registers e) (hm : e.command ∉ (run requests).commands) :
    Placed (requests ++ [q]) (placed ++ [(requests.length, e)]) where
  ascending := by
    rw [List.pairwise_append]
    refine ⟨h.ascending, List.pairwise_singleton _ _, fun p hp p' hp' => ?_⟩
    rw [List.mem_singleton.mp hp']
    exact ((h.mem_iff p.1 p.2).mp hp).lt
  mem_iff i e' := by
    rw [List.mem_append, List.mem_singleton, Prod.mk.injEq, h.mem_iff, firstAt_concat]
    refine or_congr_right (and_congr_right fun _ => ?_)
    constructor
    · rintro rfl
      exact ⟨hq, hm⟩
    · exact fun ⟨hq', _⟩ => hq'.inj hq

/-- **The entries after a run are those of the first registrations**, in their order. -/
theorem exists_placed (requests : List (Request α)) :
    ∃ placed, Placed requests placed ∧ placed.map (·.2) = (run requests).entries := by
  induction requests using List.reverseRecOn with
  | nil =>
    refine ⟨[], ⟨.nil, fun i e => ⟨fun h => absurd h List.not_mem_nil, fun h => ?_⟩⟩, rfl⟩
    exact absurd h.lt (Nat.not_lt_zero i)
  | append_singleton requests q ih =>
    obtain ⟨placed, hp, he⟩ := ih
    rw [run_concat]
    have hs := serve_served (run requests) q
    generalize (run requests).serve q = served at hs
    cases hs with
    | found word =>
      exact ⟨placed, hp.concat_of_kept fun e hq => absurd hq.word? (by simp [Request.word?]), he⟩
    | noCommand hw hn =>
      exact ⟨placed, hp.concat_of_kept fun e hq => absurd (hq.word_eq hw) (hn e.command), he⟩
    | again hq hm =>
      refine ⟨placed, hp.concat_of_kept fun e' hq' => ?_, he⟩
      rwa [hq'.inj hq]
    | registered hq hm =>
      refine ⟨_, hp.concat hq hm, ?_⟩
      rw [List.map_append, he]
      rfl

/-! ## 4. Written once -/

/-- A request is refused exactly if it wants something registered by a word that is no
    command's, or by that of a registered command. -/
theorem serve_eq_refused_iff {error : RegistryError} : (r.serve q).1 = .refused error ↔
    ∃ word, q.word? = some word ∧
      ((∀ c : Command, c.word ≠ word) ∧ error = .notACommand word ∨
        ∃ e ∈ r.entries, e.command.word = word ∧ error = .alreadyRegistered e.command) := by
  have hs := serve_served r q
  generalize r.serve q = served at hs
  cases hs with
  | found word =>
    refine ⟨fun h => (nomatch h), ?_⟩
    rintro ⟨_, hw, _⟩
    cases hw
  | noCommand hw hn =>
    constructor
    · intro h
      cases h
      exact ⟨_, hw, .inl ⟨hn, rfl⟩⟩
    · rintro ⟨word', hw', ⟨_, rfl⟩ | ⟨e, _, he, _⟩⟩
      · rw [Option.some.inj (hw.symm.trans hw')]
      · rw [Option.some.inj (hw'.symm.trans hw)] at he
        exact absurd he (hn e.command)
  | @again q e hq hm =>
    constructor
    · intro h
      cases h
      obtain ⟨e', he', hc⟩ := List.mem_map.mp hm
      exact ⟨_, hq.word?, .inr ⟨e', he', by rw [hc], by rw [hc]⟩⟩
    · rintro ⟨word, hw, ⟨hn, _⟩ | ⟨e', _, he', rfl⟩⟩
      · exact absurd (hq.word_eq hw) (hn e.command)
      · rw [← hq.word_eq hw, Command.word_inj] at he'
        rw [he']
  | @registered q e hq hm =>
    refine ⟨fun h => (nomatch h), ?_⟩
    rintro ⟨word, hw, ⟨hn, _⟩ | ⟨e', hm', he', _⟩⟩
    · exact absurd (hq.word_eq hw) (hn e.command)
    · rw [← hq.word_eq hw, Command.word_inj] at he'
      exact absurd (List.mem_map.mpr ⟨e', hm', he'⟩) hm

/-- A registration is accepted exactly if its command is not registered. -/
theorem serve_eq_registered_iff (hq : q.Registers e) :
    (r.serve q).1 = .registered e.handler ↔ e.command ∉ r.commands := by
  have hs := serve_served r q
  generalize r.serve q = served at hs
  cases hs with
  | found word => cases hq.word?
  | noCommand hw hn => exact absurd (hq.word_eq hw) (hn e.command)
  | again hq' hm =>
    rw [hq'.inj hq] at hm
    exact ⟨fun h => (nomatch h), fun hn => absurd hm hn⟩
  | registered hq' hm =>
    rw [hq'.inj hq] at hm ⊢
    exact ⟨fun _ => hm, fun _ => rfl⟩

/-- A refusal and a lookup leave the registry as it is. -/
theorem serve_of_kept (h : (∃ error, (r.serve q).1 = .refused error) ∨ ∃ word, q = .get word) :
    (r.serve q).2 = r := by
  have hs := serve_served r q
  generalize r.serve q = served at hs h
  cases hs with
  | found | noCommand | again => rfl
  | registered hq hm =>
    obtain ⟨error, he⟩ | ⟨word, rfl⟩ := h
    · cases he
    · cases hq.word?

/-- What is found under a word is the entry of the command with that word. -/
theorem get?_eq_find? (r : Registry α) (word : String) :
    r.get? word = r.entries.find? (·.command.word == word) := by
  unfold get?
  cases hc : Command.ofCanonical? word with
  | none =>
    have hn := Command.ofCanonical?_eq_none_iff.mp hc
    rw [Option.bind_none, eq_comm, List.find?_eq_none]
    exact fun e _ => by simpa using hn e.command
  | some c =>
    obtain rfl := Command.ofCanonical?_eq_some_iff.mp hc
    have hp : ∀ e : RegistryEntry α, (e.command == c) = (e.command.word == c.word) := fun e => by
      rw [Bool.eq_iff_iff, beq_iff_eq, beq_iff_eq, Command.word_inj]
    rw [Option.bind_some, find?]
    simp only [hp]

/-- What the requests leave in a registry that was empty before them, and what one more
    request does to it. -/
structure WritesOnce (requests : List (Request α)) : Prop where
  /-- Every command is listed once at most, -/
  once : (run requests).commands.Nodup
  /-- with the handler and the description of its first registration, and in the order of
      these. -/
  inOrder : ∃ placed, Placed requests placed ∧ placed.map (·.2) = (run requests).entries
  /-- A request fails exactly if it registers a word that is no command's, or one that is
      registered. -/
  refused_iff : ∀ (q : Request α) (error : RegistryError),
    ((run requests).serve q).1 = .refused error ↔
      ∃ word, q.word? = some word ∧
        ((∀ c : Command, c.word ≠ word) ∧ error = .notACommand word ∨
          ∃ e ∈ (run requests).entries, e.command.word = word ∧
            error = .alreadyRegistered e.command)
  /-- It succeeds exactly if it is the first to register its command. -/
  registered_iff : ∀ (q : Request α) (e : RegistryEntry α), q.Registers e →
    (((run requests).serve q).1 = .registered e.handler ↔
      FirstAt (requests ++ [q]) requests.length e)
  /-- A request that fails changes nothing, and a lookup does not either. -/
  kept : ∀ q : Request α,
    (∃ error, ((run requests).serve q).1 = .refused error) ∨ (∃ word, q = .get word) →
      ((run requests).serve q).2 = run requests
  /-- A lookup gives what is listed. -/
  found : ∀ word, ((run requests).serve (.get word)).1 =
    .found ((run requests).entries.find? (·.command.word == word))

/-- **A registry is written once for each command**, whatever is asked of it and in which
    order. -/
theorem run_writesOnce (requests : List (Request α)) : WritesOnce requests where
  once := by
    obtain ⟨placed, hp, he⟩ := exists_placed requests
    unfold commands
    rw [← he, List.map_map]
    exact hp.nodup
  inOrder := exists_placed requests
  refused_iff _ _ := serve_eq_refused_iff
  registered_iff q e hq := by
    rw [serve_eq_registered_iff hq, firstAt_concat_length]
    exact ⟨fun hm => ⟨hq, hm⟩, And.right⟩
  kept _ h := serve_of_kept h
  found word := congrArg Answer.found (get?_eq_find? _ word)

/-- An alias is no command's word, and the second registration of a command is refused. -/
example : (run [.get "ls", .register "ls" 1 "", .command "list" "Lists" 2,
    .register "list" 3 ""]).entries = [⟨.list, 2, "Lists"⟩] := by
  decide

/-- The registry of the console is what its registrations leave. -/
example : run (Command.Builtin.registered.map fun c =>
    .command c.word (Command.Builtin.describe c) (Command.Builtin.handlerOf c)) =
      Command.Builtin.registry :=
  rfl

end Registry

end Portfolio
