import Courier.Proofs.Json.Texts
import Courier.Proofs.Service.Plan

/-
  What the fields of an event tell of what happened.

  Two events of one kind have the same fields only if all that
  they record is the same, except that a list is recorded with
  commas between its texts.  Of lists the fields tell the
  pieces between the commas: a text that has a comma itself is
  not told apart from two texts.  Texts without commas are
  told as they are.

  Key definitions include:
    * `Fields.pieces`, `Fields.Alike`, `Fields.listed`
    * `Bootstrap.Happening.Agrees`, `Policy.Happening.Agrees`

  Main statements:
    * `Fields.pieces_commaJoined`, `Fields.commaJoined_pieces`
    * `Fields.tabled_inj`
    * `Bootstrap.Happening.encode_eq_iff`
    * `Policy.Happening.encode_eq_iff`
    * `Fields.tell_happenings`
-/

namespace Courier

------------------------------------------------------------
-- Joined texts
------------------------------------------------------------

namespace Fields

/- The pieces of a text between its commas. -/
def pieces
    (s : String) : List String :=
  (s.toList.splitOn ',').map String.ofList

/- Texts that have the same pieces, one after the other. -/
def Alike
    (xs ys : List String) : Prop :=
  xs.flatMap pieces = ys.flatMap pieces

/- Even the empty text is one piece. -/
theorem pieces_ne_nil
    (s : String) :
    pieces s ≠ [] := by
  intro hNone
  exact List.splitOn_ne_nil ',' s.toList (List.map_eq_nil_iff.mp hNone)

theorem flatMap_pieces_eq_nil
    (xs : List String) :
    xs.flatMap pieces = [] ↔ xs = [] := by
  constructor
  · intro hNone
    cases xs with
    | nil => rfl
    | cons first rest =>
        have hFirst := List.flatMap_eq_nil_iff.mp hNone first
          List.mem_cons_self
        exact absurd hFirst (pieces_ne_nil first)
  · rintro rfl
    rfl

/- A text without commas is one piece. -/
theorem pieces_eq_singleton
    {s : String}
    (hPlain : ',' ∉ s.toList) :
    pieces s = [s] := by
  rw [pieces, List.splitOn_eq_singleton hPlain, List.map_singleton,
    String.ofList_toList]

theorem flatMap_pieces_eq_self
    {xs : List String}
    (hPlain : ∀ x ∈ xs, ',' ∉ x.toList) :
    xs.flatMap pieces = xs := by
  induction xs with
  | nil => rfl
  | cons first rest ih =>
      rw [List.flatMap_cons,
        pieces_eq_singleton (hPlain first List.mem_cons_self),
        ih fun x hMember => hPlain x (List.mem_cons_of_mem _ hMember)]
      rfl

/- Each comma between two texts parts their pieces. -/
theorem pieces_append_comma
    (s rest : String) :
    pieces (s ++ "," ++ rest) = pieces s ++ pieces rest := by
  have hChars :
      (s ++ "," ++ rest).toList = s.toList ++ ',' :: rest.toList := by
    simp [String.toList_append]
  rw [pieces, hChars, List.splitOn_append_cons_self, List.map_append,
    pieces, pieces]

/- The pieces of joined texts are those of the texts. -/
theorem pieces_commaJoined
    {xs : List String}
    (hSome : xs ≠ []) :
    pieces (commaJoined xs) = xs.flatMap pieces := by
  induction xs with
  | nil => exact absurd rfl hSome
  | cons first rest ih =>
      cases rest with
      | nil => rw [commaJoined, List.flatMap_cons, List.flatMap_nil,
          List.append_nil]
      | cons second others =>
          rw [commaJoined, pieces_append_comma,
            ih (List.cons_ne_nil second others)]
          rfl

/- A text is its pieces joined again. -/
theorem commaJoined_pieces
    (s : String) :
    commaJoined (pieces s) = s := by
  apply String.toList_inj.mp
  rw [commaJoined_eq_intercalate, String.toList_intercalate, pieces,
    List.map_map]
  have hChars : String.toList ∘ String.ofList = id := by
    funext cs
    exact String.toList_ofList
  rw [hChars, List.map_id]
  exact List.intercalate_splitOn ','

/- The texts of a list that is recorded under a name. -/
def listed
    (fields : Fields)
    (name : String) : List String :=
  (fields.get? name).elim [] pieces

/- Joined texts tell of lists that are not empty what they have alike. -/
theorem commaJoined_inj
    {xs ys : List String}
    (hSome : xs ≠ [])
    (hSome' : ys ≠ []) :
    commaJoined xs = commaJoined ys ↔ Alike xs ys := by
  unfold Alike
  rw [← pieces_commaJoined hSome, ← pieces_commaJoined hSome']
  constructor
  · exact congrArg pieces
  · intro hPieces
    rw [← commaJoined_pieces (commaJoined xs), hPieces,
      commaJoined_pieces]

end Fields

------------------------------------------------------------
-- Values that may be left out
------------------------------------------------------------

/- There is one empty dictionary. -/
theorem Dict.eq_of_isEmpty
    {α : Type}
    {d d' : Dict α}
    (hNone : d.isEmpty = true)
    (hNone' : d'.isEmpty = true) :
    d = d' := by
  apply Dict.ext
  rw [List.isEmpty_iff.mp hNone, List.isEmpty_iff.mp hNone']

namespace FieldTable

/-
  What a value tells that may be left out: what it tells where
  it is there, if nothing else is told by its absence.
-/
theorem leftOutIf_inj
    {absent absent' : Bool}
    {value value' : String}
    {Same : Prop}
    (hAbsent : absent = true → absent' = true → Same)
    (hPresent :
      absent = false → absent' = false → (value = value' ↔ Same))
    (hBoth : Same → absent = absent') :
    leftOutIf absent value = leftOutIf absent' value' ↔ Same := by
  cases absent with
  | true =>
      cases absent' with
      | true => exact iff_of_true rfl (hAbsent rfl rfl)
      | false =>
          have hNot : ¬ Same := fun hSame => Bool.noConfusion (hBoth hSame)
          simp [leftOutIf, hNot]
  | false =>
      cases absent' with
      | true =>
          have hNot : ¬ Same := fun hSame => Bool.noConfusion (hBoth hSame)
          simp [leftOutIf, hNot]
      | false => simp [leftOutIf, hPresent rfl rfl]

@[simp]
theorem nonempty_inj
    (s s' : String) :
    nonempty s = nonempty s' ↔ s = s' := by
  apply leftOutIf_inj
  · intro hEmpty hEmpty'
    rw [String.isEmpty_iff.mp hEmpty, String.isEmpty_iff.mp hEmpty']
  · intro _ _
    exact Iff.rfl
  · exact congrArg String.isEmpty

/- A list that is left out if it is empty tells its pieces. -/
@[simp]
theorem joined_inj
    (xs ys : List String) :
    leftOutIf xs.isEmpty (",".intercalate xs) =
        leftOutIf ys.isEmpty (",".intercalate ys) ↔
      Fields.Alike xs ys := by
  apply leftOutIf_inj
  · intro hNone hNone'
    rw [List.isEmpty_iff.mp hNone, List.isEmpty_iff.mp hNone']
    rfl
  · intro hSome hSome'
    rw [← Fields.commaJoined_eq_intercalate,
      ← Fields.commaJoined_eq_intercalate]
    exact
      Fields.commaJoined_inj (List.isEmpty_eq_false_iff.mp hSome)
        (List.isEmpty_eq_false_iff.mp hSome')
  · intro hAlike
    rw [Bool.eq_iff_iff, List.isEmpty_iff, List.isEmpty_iff,
      ← Fields.flatMap_pieces_eq_nil, ← Fields.flatMap_pieces_eq_nil ys,
      hAlike]

/- They are read back from what is told of the list. -/
theorem elim_joined
    (xs : List String) :
    (leftOutIf xs.isEmpty (",".intercalate xs)).elim [] Fields.pieces =
      xs.flatMap Fields.pieces := by
  cases xs with
  | nil => rfl
  | cons first rest =>
      rw [← Fields.commaJoined_eq_intercalate]
      exact Fields.pieces_commaJoined (List.cons_ne_nil first rest)

/- Dictionaries of texts are told as they are. -/
@[simp]
theorem jsonOfTexts_inj
    (d d' : Dict String) :
    leftOutIf d.isEmpty (Fields.jsonOfTexts d) =
        leftOutIf d'.isEmpty (Fields.jsonOfTexts d') ↔
      d = d' := by
  apply leftOutIf_inj
  · exact Dict.eq_of_isEmpty
  · intro _ _
    constructor
    · intro hText
      have hRead := Json.Codec.texts_read_write d
      have hWrite : Json.Codec.texts.write d = Json.Codec.texts.write d' :=
        hText
      rw [hWrite, Json.Codec.texts_read_write d'] at hRead
      exact (Except.ok.inj hRead).symm
    · exact congrArg Fields.jsonOfTexts
  · exact congrArg Dict.isEmpty

/- The text of an object without fields is shorter than any other. -/
theorem isEmpty_of_jsonOfValues
    {d d' : Dict Json.Value}
    (hText : Fields.jsonOfValues d = Fields.jsonOfValues d') :
    d.isEmpty = d'.isEmpty := by
  have hLength :
      ∀ d : Dict Json.Value,
        d.isEmpty = true ↔ (Fields.jsonOfValues d).toList.length = 2 := by
    intro d
    have hFields := Json.length_le_printFields d.entries
    simp only [Fields.jsonOfValues, Json.Value.render, Json.Value.print,
      String.toList_ofList, Dict.isEmpty, List.isEmpty_iff]
    cases hEntries : d.entries with
    | nil => simp [Json.printFields]
    | cons entry rest =>
        rw [hEntries] at hFields
        simp only [List.length_cons, List.length_append,
          List.length_nil] at hFields ⊢
        simp only [reduceCtorEq, false_iff]
        omega
  rw [Bool.eq_iff_iff, hLength, hLength, hText]

/- Dictionaries of any values are told by their texts. -/
@[simp]
theorem jsonOfValues_inj
    (d d' : Dict Json.Value) :
    leftOutIf d.isEmpty (Fields.jsonOfValues d) =
        leftOutIf d'.isEmpty (Fields.jsonOfValues d') ↔
      Fields.jsonOfValues d = Fields.jsonOfValues d' := by
  apply leftOutIf_inj
  · intro hNone hNone'
    rw [Dict.eq_of_isEmpty hNone hNone']
  · intro _ _
    exact Iff.rfl
  · exact isEmpty_of_jsonOfValues

@[simp]
theorem natural_inj
    (n n' : UInt64) :
    natural n = natural n' ↔ n = n' := by
  constructor
  · intro hNatural
    have hText : Nat.repr n.toNat = Nat.repr n'.toNat :=
      Option.some.inj hNatural
    rw [Nat.repr_eq_ofList_toDigits, Nat.repr_eq_ofList_toDigits,
      String.ofList_inj] at hText
    -- The digits of a number tell the number.
    have hNumber := congrArg (Nat.ofDigitChars 10 · 0) hText
    rw [Nat.ofDigitChars_ten_toDigits, Nat.ofDigitChars_ten_toDigits]
      at hNumber
    exact UInt64.toNat_inj.mp hNumber
  · rintro rfl
    rfl

@[simp]
theorem positive_inj
    (n n' : UInt64) :
    Policy.positive n = Policy.positive n' ↔ n = n' := by
  apply leftOutIf_inj
  · intro hZero hZero'
    rw [eq_of_beq hZero, eq_of_beq hZero']
  · intro _ _
    rw [← Option.some_inj]
    exact natural_inj n n'
  · rintro rfl
    rfl

@[simp]
theorem render_inj
    (state state' : Bootstrap.State) :
    state.render = state'.render ↔ state = state' := by
  cases state with
  | inactive =>
      cases state' with
      | inactive => decide
      | active => decide
  | active =>
      cases state' with
      | inactive => decide
      | active => decide

@[simp]
theorem channelIds_inj
    (channels channels' : List Bootstrap.Channel) :
    Bootstrap.channelIds channels = Bootstrap.channelIds channels' ↔
      Fields.Alike (channels.map (·.id)) (channels'.map (·.id)) := by
  rw [← joined_inj, List.isEmpty_map, List.isEmpty_map]
  rfl

------------------------------------------------------------
-- Tables
------------------------------------------------------------

/- A table with given names is told by its values. -/
theorem eq_of_values
    {table table' : FieldTable}
    (hNames : table.names = table'.names)
    (hOnce : table.names.Nodup)
    (hValues : ∀ name, table.value? name = table'.value? name) :
    table = table' := by
  induction table generalizing table' with
  | nil => exact (List.map_eq_nil_iff.mp hNames.symm).symm
  | cons entry rest ih =>
      cases table' with
      | nil => cases hNames
      | cons entry' rest' =>
          have hName : entry.1 = entry'.1 := (List.cons.inj hNames).1
          have hRestNames : names rest = names rest' :=
            (List.cons.inj hNames).2
          rcases List.nodup_cons.mp hOnce with ⟨hNew, hRestOnce⟩
          have hValue : entry.2 = entry'.2 := by
            have hFirst := hValues entry.1
            rwa [value?_cons, value?_cons, if_pos rfl, if_pos hName.symm]
              at hFirst
          have hRest : ∀ name, value? rest name = value? rest' name := by
            intro name
            by_cases hHere : entry.1 = name
            · subst hHere
              have hNew' : entry.1 ∉ names rest' := hRestNames ▸ hNew
              rw [value?_of_not_mem hNew, value?_of_not_mem hNew']
            · have hHere' : entry'.1 ≠ name := by
                rw [← hName]
                exact hHere
              have hLater := hValues name
              rwa [value?_cons, value?_cons, if_neg hHere, if_neg hHere']
                at hLater
          rw [Prod.ext hName hValue, ih hRestNames hRestOnce hRest]

end FieldTable

/- So the fields of a table tell the table. -/
theorem Fields.tabled_inj
    {table table' : FieldTable}
    (hNames : table.names = table'.names)
    (hOnce : table.names.Nodup) :
    tabled table = tabled table' ↔ table = table' := by
  constructor
  · intro hFields
    apply FieldTable.eq_of_values hNames hOnce
    intro name
    rw [← get?_tabled table hOnce, hFields,
      get?_tabled table' (hNames ▸ hOnce)]
  · exact congrArg tabled

open FieldTable

------------------------------------------------------------
-- The bootstrap service
------------------------------------------------------------

namespace Bootstrap.Happening

/- Happenings of one kind, recorded as the same operation. -/
inductive SameKind : Happening → Happening → Prop where
  | configuration
      (a b : Configuration)
      (operation : String) :
      SameKind (configuration a operation) (configuration b operation)
  | certificates
      (a b c d a' b' c' d' : String) :
      SameKind (certificates a b c d) (certificates a' b' c' d')
  | connections
      (thingId thingId' : String)
      (channels channels' : List String) :
      SameKind (connections thingId channels) (connections thingId' channels')
  | listing
      (offset limit offset' limit' : UInt64)
      (filter filter' : Filter) :
      SameKind (listing offset limit filter) (listing offset' limit' filter')
  | removal
      (thingId thingId' : String) :
      SameKind (removal thingId) (removal thingId')
  | bootstrap
      (a b : Configuration)
      (externalId externalId' : String) :
      SameKind (bootstrap a externalId) (bootstrap b externalId')
  | stateChange
      (thingId thingId' : String)
      (state state' : State) :
      SameKind (stateChange thingId state) (stateChange thingId' state')
  | handlerRemoval
      (id id' operation : String) :
      SameKind (handlerRemoval id operation) (handlerRemoval id' operation)
  | channelUpdate
      (channel channel' : Channel) :
      SameKind (channelUpdate channel) (channelUpdate channel')
  | disconnection
      (channelId thingId channelId' thingId' : String) :
      SameKind (disconnection channelId thingId)
        (disconnection channelId' thingId')

/- No channels are told as one channel without an id. -/
def orNameless
    (channels : List String) : List String :=
  if channels = [] then [""] else channels

/-
  The parts of two happenings that are recorded are the same;
  lists of ids have the same pieces.
-/
def Agrees : Happening → Happening → Prop
  | configuration a _, configuration b _ =>
      a.thingId = b.thingId ∧ a.state = b.state ∧ a.owner = b.owner ∧
        a.name = b.name ∧ a.externalId = b.externalId ∧
        a.content = b.content ∧
        Fields.Alike (a.channels.map (·.id)) (b.channels.map (·.id))
  | certificates a b c d, certificates a' b' c' d' =>
      a = a' ∧ b = b' ∧ c = c' ∧ d = d'
  | connections thingId channels, connections thingId' channels' =>
      thingId = thingId' ∧
        Fields.Alike (orNameless channels) (orNameless channels')
  | listing offset limit filter, listing offset' limit' filter' =>
      offset = offset' ∧ limit = limit' ∧
        filter.fullMatch = filter'.fullMatch ∧
        filter.partialMatch = filter'.partialMatch
  | removal thingId, removal thingId' => thingId = thingId'
  | bootstrap a externalId, bootstrap b externalId' =>
      externalId = externalId' ∧ a.thingId = b.thingId ∧
        a.state = b.state ∧
        Fields.Alike (a.channels.map (·.id)) (b.channels.map (·.id))
  | stateChange thingId state, stateChange thingId' state' =>
      thingId = thingId' ∧ state = state'
  | handlerRemoval id _, handlerRemoval id' _ => id = id'
  | channelUpdate a, channelUpdate b =>
      a.id = b.id ∧ a.name = b.name ∧
        Fields.jsonOfValues a.metadata = Fields.jsonOfValues b.metadata
  | disconnection channelId thingId, disconnection channelId' thingId' =>
      channelId = channelId' ∧ thingId = thingId'
  | _, _ => False

theorem orNameless_ne_nil
    (channels : List String) :
    orNameless channels ≠ [] := by
  unfold orNameless
  split_ifs with hNone
  · exact List.cons_ne_nil _ _
  · exact hNone

/- A list that is never left out is told as if it had some text. -/
theorem intercalate_eq_orNameless
    (channels : List String) :
    ",".intercalate channels =
      Fields.commaJoined (orNameless channels) := by
  rw [← Fields.commaJoined_eq_intercalate]
  unfold orNameless
  split_ifs with hNone
  · rw [hNone]
    rfl
  · rfl

/- What is read from the fields of a happening. -/
theorem get?_encode
    (h : Happening)
    (name : String) :
    h.encode.get? name = h.table.value? name := by
  rw [encode_eq_tabled, Fields.get?_tabled _ h.names_nodup]

/- The fields of happenings of one kind tell whether they agree. -/
theorem encode_eq_iff
    {a b : Happening}
    (hKind : SameKind a b) :
    a.encode = b.encode ↔ a.Agrees b := by
  have hNames : a.table.names = b.table.names := by
    cases hKind with
    | _ => rfl
  rw [encode_eq_tabled, encode_eq_tabled,
    Fields.tabled_inj hNames a.names_nodup]
  cases hKind with
  | connections thingId thingId' channels channels' =>
      have hChannels :=
        Fields.commaJoined_inj (orNameless_ne_nil channels)
          (orNameless_ne_nil channels')
      simp [table, Agrees, intercalate_eq_orNameless, hChannels]
  | _ => simp [table, configurationFields, Agrees]

end Bootstrap.Happening

------------------------------------------------------------
-- The policy service
------------------------------------------------------------

namespace Policy.Happening

/- Happenings of one kind, recorded as the same operation. -/
inductive SameKind : Happening → Happening → Prop where
  | authorization
      (request request' : AccessRequest)
      (entity entity' : String) :
      SameKind (authorization request entity) (authorization request' entity')
  | change
      (policy policy' : Policy)
      (operation : String) :
      SameKind (change policy operation) (change policy' operation)
  | listing
      (page page' : Page) :
      SameKind (listing page) (listing page')

/-
  The parts of two happenings that are recorded are the same;
  lists of actions have the same pieces.
-/
def Agrees : Happening → Happening → Prop
  | authorization a entity, authorization b entity' =>
      a.subject = b.subject ∧ a.object = b.object ∧
        a.action = b.action ∧ entity = entity'
  | change a _, change b _ =>
      a.ownerId = b.ownerId ∧ a.subject = b.subject ∧
        a.object = b.object ∧ Fields.Alike a.actions b.actions ∧
        a.createdAt = b.createdAt ∧ a.updatedAt = b.updatedAt
  | listing a, listing b =>
      a.offset = b.offset ∧ a.limit = b.limit ∧
        a.subject = b.subject ∧ a.object = b.object ∧
        a.action = b.action
  | _, _ => False

/- What is read from the fields of a happening. -/
theorem get?_encode
    (h : Happening)
    (name : String) :
    h.encode.get? name = h.table.value? name := by
  rw [encode_eq_tabled, Fields.get?_tabled _ h.names_nodup]

/- The fields of happenings of one kind tell whether they agree. -/
theorem encode_eq_iff
    {a b : Happening}
    (hKind : SameKind a b) :
    a.encode = b.encode ↔ a.Agrees b := by
  have hNames : a.table.names = b.table.names := by
    cases hKind with
    | _ => rfl
  rw [encode_eq_tabled, encode_eq_tabled,
    Fields.tabled_inj hNames a.names_nodup]
  cases hKind with
  | _ => simp [table, policyFields, Agrees]

end Policy.Happening

------------------------------------------------------------
-- What fields tell
------------------------------------------------------------

open Bootstrap.Happening in
/-
  Two happenings of one kind that are recorded as the same
  operation have the same fields exactly if all that they record
  is the same, where lists of ids or actions count by their
  pieces between commas.

  The pieces are read back from the field of the list.  They
  are the texts of the list itself if none of them has a comma.
  That no channels were left to a thing, is told as one channel
  without an id.
-/
theorem Fields.tell_happenings :
    (∀ a b : Bootstrap.Happening,
      a.SameKind b → (a.encode = b.encode ↔ a.Agrees b)) ∧
    (∀ a b : Policy.Happening,
      a.SameKind b → (a.encode = b.encode ↔ a.Agrees b)) ∧
    (∀ config operation,
      (configuration config operation).encode.listed "channels" =
        (config.channels.map (·.id)).flatMap pieces) ∧
    (∀ config externalId,
      (bootstrap config externalId).encode.listed "channels" =
        (config.channels.map (·.id)).flatMap pieces) ∧
    (∀ thingId channels,
      (connections thingId channels).encode.listed "channels" =
        (orNameless channels).flatMap pieces) ∧
    (∀ policy operation,
      (Policy.Happening.change policy operation).encode.listed "actions" =
        policy.actions.flatMap pieces) ∧
    (∀ xs : List String,
      (∀ x ∈ xs, ',' ∉ x.toList) → xs.flatMap pieces = xs) := by
  have hChannels :
      ∀ channels : List Bootstrap.Channel,
        (Bootstrap.channelIds channels).elim [] pieces =
          (channels.map (·.id)).flatMap pieces := by
    intro channels
    rw [← elim_joined, List.isEmpty_map]
    rfl
  refine ⟨?_, ?_, ?_, ?_, ?_, ?_, ?_⟩
  · intro a b hKind
    exact Bootstrap.Happening.encode_eq_iff hKind
  · intro a b hKind
    exact Policy.Happening.encode_eq_iff hKind
  · intro config operation
    rw [listed, Bootstrap.Happening.get?_encode]
    exact hChannels config.channels
  · intro config externalId
    rw [listed, Bootstrap.Happening.get?_encode]
    exact hChannels config.channels
  · intro thingId channels
    have hSome := orNameless_ne_nil channels
    rw [listed, Bootstrap.Happening.get?_encode,
      ← pieces_commaJoined hSome, ← intercalate_eq_orNameless]
    rfl
  · intro policy operation
    rw [listed, Policy.Happening.get?_encode]
    exact elim_joined policy.actions
  · intro xs hPlain
    exact flatMap_pieces_eq_self hPlain

/- Ids without commas are told. -/
theorem Fields.tell_connections :
    Bootstrap.Happening.SameKind
      (.connections "t" ["c1", "c2"]) (.connections "t" ["c1", "c3"]) ∧
    Bootstrap.Happening.encode (.connections "t" ["c1", "c2"]) ≠
      Bootstrap.Happening.encode (.connections "t" ["c1", "c3"]) ∧
    (Bootstrap.Happening.encode
      (.connections "t" ["c1", "c2"])).listed "channels" =
        ["c1", "c2"] := by
  rcases tell_happenings with
    ⟨hBootstrap, -, -, -, hConnections, -, hPlain⟩
  have hKind :
      Bootstrap.Happening.SameKind
        (.connections "t" ["c1", "c2"]) (.connections "t" ["c1", "c3"]) :=
    .connections _ _ _ _
  have hFirst : ["c1", "c2"].flatMap pieces = ["c1", "c2"] :=
    hPlain _ (by decide)
  have hSecond : ["c1", "c3"].flatMap pieces = ["c1", "c3"] :=
    hPlain _ (by decide)
  refine ⟨hKind, ?_, (hConnections _ _).trans hFirst⟩
  intro hFields
  have hAgrees := (hBootstrap _ _ hKind).mp hFields
  have hSame : ["c1", "c2"].flatMap pieces = ["c1", "c3"].flatMap pieces :=
    hAgrees.2
  rw [hFirst, hSecond] at hSame
  exact absurd hSame (by decide)

/- An id with a comma is not told apart from two. -/
theorem Fields.untold_comma :
    Bootstrap.Happening.SameKind
      (.connections "t" ["a,b"]) (.connections "t" ["a", "b"]) ∧
    Bootstrap.Happening.encode (.connections "t" ["a,b"]) =
      Bootstrap.Happening.encode (.connections "t" ["a", "b"]) ∧
    ["a,b"] ≠ ["a", "b"] := by
  exact ⟨.connections _ _ _ _, rfl, by decide⟩

end Courier
