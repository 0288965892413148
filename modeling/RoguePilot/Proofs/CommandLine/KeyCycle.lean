import RoguePilot.CommandLine.Run
import RoguePilot.Proofs.Play.Conduct
import RoguePilot.Proofs.Play.Patience
import RoguePilot.Proofs.Text.Encoding

/-!
# The keys that are typed in turn

Each episode types the bytes of the keys one after the other, beginning with the first one, and again after
the last one. It stops at the first step that reports the episode to be over, and at its limit of steps. One
byte is an action; so each action is a whole character only as long as the characters take one byte each.
-/

namespace RoguePilot.CommandLine

open Dialogue
open Episode (Turn)

/-! ## A record of the steps -/

/-- An episode as it was played. -/
structure Record where
  /-- It was over from the start. -/
  ended : Bool
  /-- The steps that were taken. -/
  turns : List Turn
  /-- The episode after them. -/
  last : Episode

/-- Takes steps as `playSteps` does, and keeps a record of them. -/
def recordSteps (polls : Nat) (keys : List UInt8) :
    (left : Nat) → (step : Nat) → Episode → Play.Program (List Turn × Episode)
  | 0, _, episode => pure ([], episode)
  | left + 1, step, episode => do
    let (after, outcome) ← episode.step polls (actionAt keys step)
    if outcome.done then return ([⟨episode, actionAt keys step, after, outcome⟩], after)
    else
      let (turns, last) ← recordSteps polls keys left (step + 1) after
      return (⟨episode, actionAt keys step, after, outcome⟩ :: turns, last)

/-- Plays the next episode as `playEpisode` does, and keeps a record of it. -/
def recordEpisode (polls : Nat) (options : Options) (episode : Episode) : Play.Program Record := do
  let (start, ended) ← episode.reset polls
  if ended then return ⟨true, [], start⟩
  else
    let (turns, last) ← recordSteps polls options.keys.toUTF8.toList options.stepLimit 0 start
    return ⟨false, turns, last⟩

/-- Plays so many episodes as `playEpisodes` does, and keeps a record of each. -/
def recordEpisodes (polls : Nat) (game : GameConfig) (options : Options) :
    (count : Nat) → Episode → World.Program (List Record × Episode)
  | 0, episode => pure ([], episode)
  | count + 1, episode => do
    let record ← Launch.play game (recordEpisode polls options episode)
    report options record.last
    let (records, last) ← recordEpisodes polls game options count record.last
    return (record :: records, last)

theorem recordSteps_last (polls : Nat) (keys : List UInt8) (left step : Nat) (episode : Episode) :
    Prod.snd <$> recordSteps polls keys left step episode = playSteps polls keys left step episode := by
  induction left generalizing step episode with
  | zero => rfl
  | succ left induction =>
      rw [recordSteps, playSteps, map_bind]
      refine bind_congr fun result => ?_
      obtain ⟨after, outcome⟩ := result
      dsimp only
      split
      · rfl
      · rw [← induction (step + 1) after, map_bind]
        exact bind_congr fun _ => rfl

theorem recordEpisode_last (polls : Nat) (options : Options) (episode : Episode) :
    Record.last <$> recordEpisode polls options episode = playEpisode polls options episode := by
  rw [recordEpisode, playEpisode, map_bind]
  refine bind_congr fun result => ?_
  obtain ⟨start, ended⟩ := result
  dsimp only
  split
  · rfl
  · rw [← recordSteps_last, map_bind]
    exact bind_congr fun _ => rfl

theorem play_map {α β : Type} (game : GameConfig) (rewrite : α → β) (program : Play.Program α) :
    Launch.play game (rewrite <$> program) = rewrite <$> Launch.play game program :=
  translate_map rewrite program

theorem recordEpisodes_last (polls : Nat) (game : GameConfig) (options : Options) (count : Nat)
    (episode : Episode) :
    Prod.snd <$> recordEpisodes polls game options count episode =
      playEpisodes polls game options count episode := by
  induction count generalizing episode with
  | zero => rfl
  | succ count induction =>
      rw [recordEpisodes, playEpisodes, ← recordEpisode_last, play_map, bind_map_left, map_bind]
      refine bind_congr fun record => ?_
      rw [map_bind]
      refine bind_congr fun _ => ?_
      rw [← induction record.last, map_bind]
      exact bind_congr fun _ => rfl

/-! ## One byte after the other -/

/-- What steps from the given one on are. -/
structure TypesFrom (bytes : List UInt8) (first limit : Nat) (turns : List Turn) : Prop where
  /-- Each step types one byte, and these are the bytes in turn. -/
  action_eq : ∀ step turn, turns[step]? = some turn → turn.action = actionAt bytes (first + step)
  /-- There are not more steps than allowed. -/
  length_le : turns.length ≤ limit
  /-- None but the last step has reported that the episode is over. -/
  goesOn : ∀ turn ∈ turns.dropLast, turn.outcome.done = false
  /-- With fewer steps than allowed the last one has reported it. -/
  stops : turns.length < limit → ∃ turn ∈ turns.getLast?, turn.outcome.done = true

variable {bytes : List UInt8} {first limit : Nat} {turn : Turn} {turns : List Turn}

theorem typesFrom_nil (bytes : List UInt8) (first : Nat) : TypesFrom bytes first 0 [] where
  action_eq _ _ here := nomatch here
  length_le := Nat.le_refl 0
  goesOn _ member := nomatch member
  stops less := absurd less (Nat.not_lt_zero _)

theorem typesFrom_single (typed : turn.action = actionAt bytes first) (finished : turn.outcome.done = true) :
    TypesFrom bytes first (limit + 1) [turn] where
  action_eq step other here := by
    cases step with
    | zero =>
        obtain rfl := Option.some.inj here
        exact typed
    | succ step => contradiction
  length_le := Nat.le_add_left 1 limit
  goesOn _ member := nomatch member
  stops _ := ⟨turn, rfl, finished⟩

theorem TypesFrom.cons (rest : TypesFrom bytes (first + 1) limit turns)
    (typed : turn.action = actionAt bytes first) (on : turn.outcome.done = false) :
    TypesFrom bytes first (limit + 1) (turn :: turns) where
  action_eq step other here := by
    cases step with
    | zero =>
        obtain rfl := Option.some.inj here
        exact typed
    | succ step =>
        have step_eq : first + (step + 1) = first + 1 + step := by omega
        rw [step_eq]
        exact rest.action_eq step other here
  length_le := Nat.succ_le_succ rest.length_le
  goesOn other member := by
    cases turns with
    | nil => contradiction
    | cons next later =>
        rw [List.dropLast_cons_of_ne_nil (List.cons_ne_nil _ _), List.mem_cons] at member
        rcases member with rfl | member
        · exact on
        · exact rest.goesOn other member
  stops less := by
    obtain ⟨last, found, finished⟩ := rest.stops (Nat.lt_of_succ_lt_succ less)
    refine ⟨last, ?_, finished⟩
    cases turns with
    | nil => contradiction
    | cons next later => exact found

/-- The steps that are recorded type the bytes in turn until one of them reports that the episode is over. -/
theorem recordSteps_ensures (polls : Nat) (bytes : List UInt8) (left step : Nat) (episode : Episode) :
    (recordSteps polls bytes left step episode).Ensures fun played => TypesFrom bytes step left played.1 := by
  induction left generalizing step episode with
  | zero => exact typesFrom_nil bytes step
  | succ left induction =>
      rw [recordSteps, ensures_bind]
      refine .of_forall fun result => ?_
      obtain ⟨after, outcome⟩ := result
      dsimp only
      split
      · next finished => exact typesFrom_single rfl finished
      · next on =>
        rw [ensures_bind]
        refine (induction (step + 1) after).mono fun played rest => ?_
        exact rest.cons rfl (Bool.eq_false_iff.mpr on)

/-- An episode in which the bytes are typed in turn, from the first on, until it is over. -/
structure Record.Cycles (bytes : List UInt8) (limit : Nat) (record : Record) : Prop where
  /-- Each step types one byte, and these are the bytes in turn. -/
  action_eq : ∀ step turn, record.turns[step]? = some turn →
    ∃ byte, bytes[step % bytes.length]? = some byte ∧ turn.action = [byte]
  /-- There are not more steps than allowed. -/
  length_le : record.turns.length ≤ limit
  /-- An episode that is over from the start has no steps. -/
  idle : record.ended = true → record.turns = []
  /-- None but the last step has reported that the episode is over. -/
  goesOn : ∀ turn ∈ record.turns.dropLast, turn.outcome.done = false
  /-- With fewer steps than allowed the last one has reported it. -/
  stops : record.ended = false → record.turns.length < limit →
    ∃ turn ∈ record.turns.getLast?, turn.outcome.done = true

theorem exists_actionAt (nonempty : bytes ≠ []) (step : Nat) :
    ∃ byte, bytes[step % bytes.length]? = some byte ∧ actionAt bytes step = [byte] := by
  have inside : step % bytes.length < bytes.length := Nat.mod_lt _ (List.length_pos_iff.mpr nonempty)
  refine ⟨bytes[step % bytes.length], List.getElem?_eq_getElem inside, ?_⟩
  rw [actionAt, List.getD_eq_getElem?_getD, List.getElem?_eq_getElem inside]
  rfl

theorem recordEpisode_ensures (polls : Nat) (options : Options) (episode : Episode)
    (nonempty : options.keys.toUTF8.toList ≠ []) :
    (recordEpisode polls options episode).Ensures
      (Record.Cycles options.keys.toUTF8.toList options.stepLimit) := by
  rw [recordEpisode, ensures_bind]
  refine .of_forall fun result => ?_
  obtain ⟨start, ended⟩ := result
  dsimp only
  split
  · refine ⟨fun _ _ here => ?_, Nat.zero_le _, fun _ => rfl, fun _ member => ?_, fun on => ?_⟩ <;> contradiction
  · rw [ensures_bind]
    refine (recordSteps_ensures polls _ _ 0 start).mono fun played types => ?_
    refine ⟨fun step turn here => ?_, types.length_le, fun ended => (nomatch ended), types.goesOn,
      fun _ => types.stops⟩
    rw [types.action_eq step turn here, Nat.zero_add]
    exact exists_actionAt nonempty step

theorem recordEpisodes_ensures {post : Record → Prop} {polls : Nat} {game : GameConfig} {options : Options}
    (each : ∀ episode, (recordEpisode polls options episode).Ensures post) (count : Nat) (episode : Episode) :
    (recordEpisodes polls game options count episode).Ensures fun played =>
      played.1.length = count ∧ ∀ record ∈ played.1, post record := by
  induction count generalizing episode with
  | zero => exact ⟨rfl, List.forall_mem_nil _⟩
  | succ count induction =>
      have played : (Launch.play game (recordEpisode polls options episode)).Ensures post :=
        (each episode).translate
      rw [recordEpisodes, ensures_bind]
      refine played.mono fun record here => ?_
      rw [ensures_bind]
      refine .of_forall fun _ => ?_
      rw [ensures_bind]
      refine (induction record.last).mono fun later rest => ?_
      exact ⟨congrArg Nat.succ rest.1, List.forall_mem_cons.mpr ⟨here, rest.2⟩⟩

/-! ## Whole characters -/

/-- Each step types a whole character, and these are the characters of the text in turn. -/
def Record.TypesWhole (text : List Char) (record : Record) : Prop :=
  ∀ step turn, record.turns[step]? = some turn →
    ∃ character, text[step % text.length]? = some character ∧ turn.action = String.utf8EncodeChar character

/-- The character takes one byte. -/
def IsAscii (character : Char) : Prop := character.toNat < 128

theorem length_utf8EncodeChar_eq_one_iff {character : Char} :
    (String.utf8EncodeChar character).length = 1 ↔ IsAscii character := by
  rw [String.length_utf8EncodeChar, Char.utf8Size_eq_one_iff, IsAscii, Char.toNat, UInt32.le_iff_toNat_le]
  exact Nat.lt_succ_iff.symm

theorem encodeChar_of_isAscii {character : Char} (ascii : IsAscii character) :
    ∃ byte, String.utf8EncodeChar character = [byte] :=
  List.length_eq_one_iff.mp (length_utf8EncodeChar_eq_one_iff.mpr ascii)

theorem length_encode_of_ascii {text : List Char} (ascii : ∀ character ∈ text, IsAscii character) :
    (Text.Utf8.encode text).length = text.length := by
  induction text with
  | nil => rfl
  | cons character text induction =>
      obtain ⟨here, later⟩ := List.forall_mem_cons.mp ascii
      obtain ⟨byte, encoded⟩ := encodeChar_of_isAscii here
      have rest := induction later
      rw [Text.Utf8.encode, List.flatMap_cons, encoded]
      exact congrArg Nat.succ rest

theorem length_le_length_encode (text : List Char) : text.length ≤ (Text.Utf8.encode text).length := by
  induction text with
  | nil => exact Nat.le_refl 0
  | cons character text induction =>
      have some := Char.utf8Size_pos character
      rw [Text.Utf8.encode, List.flatMap_cons, List.length_append, String.length_utf8EncodeChar,
        List.length_cons]
      rw [Text.Utf8.encode] at induction
      omega

/-- As long as there are only characters of one byte, bytes and characters have the same places. -/
theorem getElem?_encode_of_ascii {text : List Char} {place : Nat} {character : Char}
    (ascii : ∀ earlier ∈ text.take (place + 1), IsAscii earlier) (here : text[place]? = some character) :
    ∃ byte, (Text.Utf8.encode text)[place]? = some byte ∧ String.utf8EncodeChar character = [byte] := by
  induction place generalizing text with
  | zero =>
      cases text with
      | nil => contradiction
      | cons first rest =>
          obtain ⟨byte, encoded⟩ := encodeChar_of_isAscii (ascii first List.mem_cons_self)
          obtain rfl := Option.some.inj here
          refine ⟨byte, ?_, encoded⟩
          rw [Text.Utf8.encode, List.flatMap_cons, encoded]
          rfl
  | succ place induction =>
      cases text with
      | nil => contradiction
      | cons first rest =>
          obtain ⟨first_ascii, rest_ascii⟩ := List.forall_mem_cons.mp ascii
          obtain ⟨byte, encoded⟩ := encodeChar_of_isAscii first_ascii
          rw [Text.Utf8.encode, List.flatMap_cons, encoded]
          exact induction rest_ascii here

/-- With at most so many steps as there are characters, or with characters of one byte only, the place of a
step among the bytes is its place among the characters. -/
theorem mod_length_encode {text : List Char} {step steps : Nat} (before : step < steps)
    (ascii : ∀ character ∈ text.take steps, IsAscii character) :
    step % (Text.Utf8.encode text).length = step % text.length := by
  have longer := length_le_length_encode text
  by_cases short : steps ≤ text.length
  · rw [Nat.mod_eq_of_lt (by omega), Nat.mod_eq_of_lt (by omega)]
  · rw [List.take_of_length_le (by omega)] at ascii
    rw [length_encode_of_ascii ascii]

/-- The steps of an episode type whole characters just if each character that comes up takes one byte. -/
theorem Record.Cycles.typesWhole_iff {text : List Char} {record : Record} {limit : Nat}
    (cycles : record.Cycles (Text.Utf8.encode text) limit) :
    record.TypesWhole text ↔ ∀ character ∈ text.take record.turns.length, IsAscii character := by
  constructor
  · intro whole character member
    obtain ⟨step, found⟩ := List.mem_iff_getElem?.mp member
    obtain ⟨before, here⟩ : step < record.turns.length ∧ text[step]? = some character := by
      rw [List.getElem?_take] at found
      split at found
      · next before => exact ⟨before, found⟩
      · contradiction
    obtain ⟨inside, -⟩ := List.getElem?_eq_some_iff.mp here
    have taken := List.getElem?_eq_getElem before
    obtain ⟨typed, typed_here, typed_eq⟩ := whole step _ taken
    obtain ⟨byte, -, byte_eq⟩ := cycles.action_eq step _ taken
    rw [Nat.mod_eq_of_lt inside, here] at typed_here
    obtain rfl := Option.some.inj typed_here
    rw [← length_utf8EncodeChar_eq_one_iff, ← typed_eq, byte_eq]
    rfl
  · intro ascii step turn here
    obtain ⟨before, -⟩ := List.getElem?_eq_some_iff.mp here
    obtain ⟨byte, byte_here, action_eq⟩ := cycles.action_eq step turn here
    rw [mod_length_encode before ascii] at byte_here
    have some : text ≠ [] := by
      rintro rfl
      contradiction
    have inside : step % text.length < text.length := Nat.mod_lt _ (List.length_pos_iff.mpr some)
    have place_le : step % text.length + 1 ≤ record.turns.length :=
      Nat.lt_of_le_of_lt (Nat.mod_le step text.length) before
    obtain ⟨same, same_here, encoded⟩ := getElem?_encode_of_ascii
      (fun earlier member => ascii earlier ((List.take_sublist_take_left place_le).subset member))
      (List.getElem?_eq_getElem inside)
    rw [same_here] at byte_here
    obtain rfl := Option.some.inj byte_here
    exact ⟨_, List.getElem?_eq_getElem inside, action_eq.trans encoded.symm⟩

/--
Whatever the game does, a run of the program plays as many episodes as it is told to. In each it starts with
the first byte of the keys and types one byte at a step, in turn, until the start or a step reports that the
episode is over or as many steps as are allowed have been taken. These are whole characters just if each
character of the keys that comes up takes one byte.
-/
theorem keys_typed_byte_by_byte (polls : Nat) (game : GameConfig) (options : Options) (episode : Episode)
    (nonempty : options.keys ≠ "") :
    Prod.snd <$> recordEpisodes polls game options options.episodes episode =
        playEpisodes polls game options options.episodes episode ∧
      (recordEpisodes polls game options options.episodes episode).Ensures fun played =>
        played.1.length = options.episodes ∧ ∀ record ∈ played.1,
          record.Cycles (Text.Utf8.encode options.keys.toList) options.stepLimit ∧
            (record.TypesWhole options.keys.toList ↔
              ∀ character ∈ options.keys.toList.take record.turns.length, IsAscii character) := by
  refine ⟨recordEpisodes_last polls game options options.episodes episode, ?_⟩
  have bytes_eq := Text.Utf8.toList_toUTF8 options.keys
  have some : Text.Utf8.encode options.keys.toList ≠ [] := by
    have characters : options.keys.toList ≠ [] := fun none => nonempty (String.toList_eq_nil_iff.mp none)
    have longer := length_le_length_encode options.keys.toList
    exact List.length_pos_iff.mp (Nat.lt_of_lt_of_le (List.length_pos_iff.mpr characters) longer)
  refine recordEpisodes_ensures (fun start => ?_) options.episodes episode
  have cycles := recordEpisode_ensures polls options start (bytes_eq ▸ some)
  rw [bytes_eq] at cycles
  exact cycles.mono fun record cycles => ⟨cycles, cycles.typesWhole_iff⟩

/-- Keys of one byte each are typed whole, however many steps there are. -/
theorem keys_typed_byte_by_byte_plain :
    (recordEpisodes 3 {} { keys := "o5" } 1 (.create {})).Ensures fun played =>
      ∀ record ∈ played.1, record.TypesWhole ['o', '5'] := by
  have nonempty : "o5" ≠ "" := by decide
  refine (keys_typed_byte_by_byte 3 {} { keys := "o5" } (.create {}) nonempty).2.mono ?_
  intro played cycles record member
  refine (cycles.2 record member).2.mpr fun character taken => ?_
  have first : 'o'.toNat < 128 := by decide
  have second : '5'.toNat < 128 := by decide
  have ascii : ∀ character ∈ ['o', '5'], IsAscii character :=
    List.forall_mem_cons.mpr ⟨first, List.forall_mem_singleton.mpr second⟩
  exact ascii character (List.mem_of_mem_take taken)

/-- A key of two bytes is not typed whole: a step types its first byte alone. -/
theorem accented_key_split :
    ∃ record, (Dialogue.run Play.Rehearsal.host
        (recordEpisode 3 { keys := "é", stepLimit := 1 } (.create Play.Rehearsal.hasty))
        (.of [some (Play.Rehearsal.easyGame [])])).1 = some record ∧
      record.turns.map Turn.action = [[0xC3]] ∧ ¬ record.TypesWhole ['é'] := by
  have seen : ((Dialogue.run Play.Rehearsal.host
      (recordEpisode 3 { keys := "é", stepLimit := 1 } (.create Play.Rehearsal.hasty))
      (.of [some (Play.Rehearsal.easyGame [])])).1.map fun record => record.turns.map Turn.action) =
        some [[0xC3]] := by
    simp only [recordEpisode, Text.Utf8.toList_toUTF8]
    decide +kernel
  obtain ⟨record, played, actions_eq⟩ := Option.map_eq_some_iff.mp seen
  refine ⟨record, played, actions_eq, fun whole => ?_⟩
  obtain ⟨turn, taken, action_eq⟩ := List.map_eq_singleton_iff.mp actions_eq
  have first : record.turns[0]? = some turn := congrArg (·[0]?) taken
  obtain ⟨character, found, typed⟩ := whole 0 turn first
  obtain rfl := Option.some.inj found
  rw [action_eq] at typed
  exact absurd typed (by decide)

end RoguePilot.CommandLine
