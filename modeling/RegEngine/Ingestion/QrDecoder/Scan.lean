import RegEngine.Ingestion.QrDecoder

/-
  What every scan of an element string keeps: fields that are
  set stay, values are made of the scanned characters, and the
  lot code and serial read fill no more of the text than its
  groups with an application identifier have.

  Main declarations:
    * `QrDecoder.Readable`
    * `QrDecoder.held`
    * `QrDecoder.lot_scan`
-/

--------
-- Fields That Are Set
--------

namespace RegEngine

namespace QrDecoder

section

variable {text value : List Char}
  {fields : QrDecodedFields} {field : Field}

/- A field that is not overwritten once it is set. -/
def Keeps
    (get : QrDecodedFields → Option (List Char)) : Prop :=
  ∀ field value fields, isUnset (get fields) = false →
    get (record field value fields) = get fields

theorem keeps_lot :
    Keeps QrDecodedFields.traceabilityLotCode := by
  intro field value fields hSet
  unfold record
  cases field <;> dsimp only <;> split <;> simp_all

theorem keeps_serial :
    Keeps QrDecodedFields.serial := by
  intro field value fields hSet
  unfold record
  cases field <;> dsimp only <;> split <;> simp_all

/- A scan leaves alone what is set. -/
theorem Keeps.scan
    {get : QrDecodedFields → Option (List Char)}
    (hKeeps : Keeps get)
    (hSet : isUnset (get fields) = false) :
    get (scan text fields) = get fields := by
  revert hSet
  induction text, fields using scan_induction with
  | nil fields => exact fun _ => rfl
  | skip c rest fields hSkip ih =>
      intro hSet
      rw [scan_skip hSkip]
      exact ih hSet
  | fixed first second text fields field length hRead hLength
      ih =>
      intro hSet
      have hRecord :
          get (recordFixed field length text fields) =
            get fields := by
        rw [recordFixed]
        split
        · exact hKeeps field _ fields hSet
        · rfl
      rw [scan_fixed hRead hLength, ih (hRecord ▸ hSet), hRecord]
  | variableLength first second text fields field hRead hLength
      ih =>
      intro hSet
      have hRecord :
          get (recordVariable field text fields) =
            get fields := by
        rw [recordVariable]
        split
        · exact hKeeps field _ fields hSet
        · rfl
      rw [scan_variable hRead hLength, ih (hRecord ▸ hSet),
        hRecord]

end

--------
-- Where Values Come From
--------

section

variable {text : List Char} {fields : QrDecodedFields}

/-
  Fields that a scan may have read: lot code and serial of
  allowed characters, and dates that were parsed.
-/
structure Readable
    (allowed : Char → Prop)
    (fields : QrDecodedFields) : Prop where
  lot : ∀ value, fields.traceabilityLotCode = some value →
    ∀ c ∈ value, allowed c
  serial : ∀ value, fields.serial = some value →
    ∀ c ∈ value, allowed c
  packDate : ∀ date, fields.packDate = some date →
    ∃ value, parseYymmdd value = some date
  expiryDate : ∀ date, fields.expiryDate = some date →
    ∃ value, parseYymmdd value = some date

variable {allowed : Char → Prop}

theorem Readable.record
    {field : Field}
    {value : List Char}
    (hReadable : Readable allowed fields)
    (hValue : ∀ c ∈ value, allowed c) :
    Readable allowed (record field value fields) := by
  rcases hReadable with ⟨hLot, hSerial, hPack, hExpiry⟩
  unfold QrDecoder.record
  cases field with
  | gtin =>
      dsimp only
      split
      · exact ⟨hLot, hSerial, hPack, hExpiry⟩
      · exact ⟨hLot, hSerial, hPack, hExpiry⟩
  | packDate =>
      dsimp only
      split
      · exact ⟨hLot, hSerial, fun date hDate => ⟨value, hDate⟩,
          hExpiry⟩
      · exact ⟨hLot, hSerial, hPack, hExpiry⟩
  | expiry =>
      dsimp only
      split
      · exact ⟨hLot, hSerial, hPack,
          fun date hDate => ⟨value, hDate⟩⟩
      · exact ⟨hLot, hSerial, hPack, hExpiry⟩
  | lot =>
      dsimp only
      split
      · exact ⟨fun read hRead => Option.some.inj hRead ▸ hValue,
          hSerial, hPack, hExpiry⟩
      · exact ⟨hLot, hSerial, hPack, hExpiry⟩
  | serial =>
      dsimp only
      split
      · exact ⟨hLot, fun read hRead =>
          Option.some.inj hRead ▸ hValue, hPack, hExpiry⟩
      · exact ⟨hLot, hSerial, hPack, hExpiry⟩

/- A scan reads values of the characters it passes. -/
theorem readable_scan
    (text : List Char)
    (hText : ∀ c ∈ text, allowed c)
    (hFields : Readable allowed fields) :
    Readable allowed (scan text fields) := by
  revert hText hFields
  induction text, fields using scan_induction with
  | nil fields => exact fun _ hFields => hFields
  | skip c rest fields hSkip ih =>
      intro hText hFields
      rw [scan_skip hSkip]
      exact ih (fun d hd => hText d (List.mem_cons_of_mem _ hd))
        hFields
  | fixed first second text fields field length hRead hLength
      ih =>
      intro hText hFields
      have hBody : ∀ c ∈ text, allowed c :=
        fun c hc => hText c (by simp [hc])
      rw [scan_fixed hRead hLength]
      apply ih (fun c hc => hBody c (List.mem_of_mem_drop hc))
      rw [recordFixed]
      split
      · exact hFields.record (fun c hc =>
          hBody c (List.mem_of_mem_take hc))
      · exact hFields
  | variableLength first second text fields field hRead hLength
      ih =>
      intro hText hFields
      have hBody : ∀ c ∈ text, allowed c :=
        fun c hc => hText c (by simp [hc])
      rw [scan_variable hRead hLength]
      apply ih (fun c hc => hBody c (List.mem_of_mem_drop hc))
      rw [recordVariable]
      split
      · exact hFields.record (fun c hc =>
          hBody c (List.mem_of_mem_take hc))
      · exact hFields

end

--------
-- The Room For Values
--------

section

variable {text rest value : List Char}
  {fields : QrDecodedFields} {field : Field}

/-
  The groups of a text between separators: the characters of
  the finished groups that hold an application identifier, the
  length of the group at the front, and whether it holds one.
-/
structure Groups where
  finished : Nat
  length : Nat
  live : Bool

/- The characters of the groups that hold an identifier. -/
def Groups.total (groups : Groups) : Nat :=
  groups.finished + (if groups.live then groups.length else 0)

def groupsOf : List Char → Groups
| [] => ⟨0, 0, false⟩
| c :: rest =>
    let later := groupsOf rest
    if c = groupSeparator then
      ⟨later.total, 0, false⟩
    else
      ⟨later.finished, later.length + 1,
        later.live || (supportedAi (c :: rest)).isSome⟩

/- The room a text has for values that are read. -/
def room (text : List Char) : Nat :=
  (groupsOf text).total

theorem groupsOf_nil : groupsOf [] = ⟨0, 0, false⟩ :=
  rfl

theorem groupsOf_separator
    (rest : List Char) :
    groupsOf (groupSeparator :: rest) =
      ⟨(groupsOf rest).total, 0, false⟩ := by
  simp [groupsOf]

theorem groupsOf_cons
    {c : Char}
    (rest : List Char)
    (hFree : c ≠ groupSeparator) :
    groupsOf (c :: rest) =
      ⟨(groupsOf rest).finished, (groupsOf rest).length + 1,
        (groupsOf rest).live ||
          (supportedAi (c :: rest)).isSome⟩ :=
  if_neg hFree

theorem groupsOf_append
    (rest : List Char)
    (hValue : groupSeparator ∉ value) :
    (groupsOf (value ++ rest)).finished =
        (groupsOf rest).finished ∧
      (groupsOf (value ++ rest)).length =
        value.length + (groupsOf rest).length ∧
      ((groupsOf rest).live = true →
        (groupsOf (value ++ rest)).live = true) := by
  induction value with
  | nil => simp
  | cons c later ih =>
      rw [List.mem_cons, not_or] at hValue
      rcases ih hValue.2 with ⟨hFinished, hLength, hLive⟩
      rw [List.cons_append,
        groupsOf_cons _ (fun h => hValue.1 h.symm)]
      refine ⟨hFinished, ?_, ?_⟩
      · simp only [List.length_cons]
        omega
      · intro hRest
        simp [hLive hRest]

theorem room_le_cons
    (c : Char)
    (rest : List Char) :
    room rest ≤ room (c :: rest) := by
  rw [room, room]
  by_cases hSeparator : c = groupSeparator
  · simp [hSeparator, groupsOf_separator, Groups.total]
  · rw [groupsOf_cons rest hSeparator]
    simp only [Groups.total]
    cases (groupsOf rest).live with
    | false => simp
    | true => simp

theorem room_drop_le
    (text : List Char)
    (k : Nat) :
    room (text.drop k) ≤ room text := by
  induction k generalizing text with
  | zero => exact le_refl _
  | succ k ih =>
      cases text with
      | nil => simp
      | cons c rest =>
          exact le_trans (ih rest) (room_le_cons c rest)

/- An application identifier and its value take their room. -/
theorem room_read
    {first second : Char}
    (rest : List Char)
    (hRead : readAi first second = some field)
    (hValue : groupSeparator ∉ value) :
    value.length + 2 + room rest ≤
      room (first :: second :: (value ++ rest)) := by
  have hFirst := ne_groupSeparator_of_readAi hRead
  have hSecond : second ≠ groupSeparator := by
    intro hEq
    rw [hEq] at hRead
    simp [readAi, groupSeparator] at hRead
  have hAi :
      supportedAi (first :: second :: (value ++ rest)) =
        some field := hRead
  rcases groupsOf_append rest hValue with
    ⟨hFinished, hLength, hLive⟩
  have hGroups :
      room (first :: second :: (value ++ rest)) =
        (groupsOf rest).finished +
          (value.length + (groupsOf rest).length + 2) := by
    rw [room, groupsOf_cons _ hFirst, groupsOf_cons _ hSecond,
      hAi, hFinished, hLength]
    simp [Groups.total]
  rw [hGroups, room, Groups.total]
  split <;> omega

/- A group takes its length at most. -/
theorem room_group_le
    (rest : List Char)
    (hValue : groupSeparator ∉ value) :
    room (value ++ groupSeparator :: rest) ≤
      value.length + room rest := by
  rcases groupsOf_append (groupSeparator :: rest) hValue with
    ⟨hFinished, hLength, _⟩
  rw [room, Groups.total, hFinished, hLength]
  simp only [groupsOf_separator]
  rw [room]
  split <;> omega

theorem room_le_length
    (hValue : groupSeparator ∉ value) :
    room value ≤ value.length := by
  rcases groupsOf_append [] hValue with
    ⟨hFinished, hLength, _⟩
  rw [List.append_nil] at hFinished hLength
  rw [room, Groups.total, hFinished, hLength]
  simp only [groupsOf_nil]
  split <;> omega

/-
  A test fails at every place of a value, read with what
  follows the value.
-/
def nowhere (test : List Char → Bool) :
    List Char → List Char → Bool
| [], _ => true
| c :: value, rest =>
    !test (c :: (value ++ rest)) && nowhere test value rest

/- The text at the front reads as an application identifier. -/
def startsAi (text : List Char) : Bool :=
  (supportedAi text).isSome

/- A group without application identifiers has no room. -/
theorem live_of_nowhere
    (hValue : groupSeparator ∉ value)
    (hNowhere : nowhere startsAi value rest = true) :
    (groupsOf (value ++ rest)).live = (groupsOf rest).live := by
  induction value with
  | nil => rfl
  | cons c later ih =>
      rw [List.mem_cons, not_or] at hValue
      simp only [nowhere, startsAi, Bool.and_eq_true,
        Bool.not_eq_true', Option.isSome_eq_false_iff,
        Option.isNone_iff_eq_none] at hNowhere
      rw [List.cons_append,
        groupsOf_cons _ (fun h => hValue.1 h.symm)]
      simp [hNowhere.1, ih hValue.2 hNowhere.2]

theorem room_quiet_group
    (hValue : groupSeparator ∉ value)
    (hNowhere : nowhere startsAi value
      (groupSeparator :: rest) = true) :
    room (value ++ groupSeparator :: rest) = room rest := by
  rcases groupsOf_append (groupSeparator :: rest) hValue with
    ⟨hFinished, _, _⟩
  have hLive := live_of_nowhere hValue hNowhere
  simp only [groupsOf_separator] at hFinished hLive
  simp [room, Groups.total, hFinished, hLive]

theorem room_quiet
    (hValue : groupSeparator ∉ value)
    (hNowhere : nowhere startsAi value [] = true) :
    room value = 0 := by
  rcases groupsOf_append [] hValue with ⟨hFinished, _, _⟩
  have hLive := live_of_nowhere hValue hNowhere
  rw [List.append_nil] at hFinished hLive
  simp [room, Groups.total, hFinished, hLive, groupsOf_nil]

end

--------
-- The Values Fit The Room
--------

variable {text value : List Char}
  {fields : QrDecodedFields} {field : Field}

/- A value with its application identifier. -/
def widthOf : Option (List Char) → Nat
| none => 0
| some value => value.length + 2

/- The characters lot code and serial were printed with. -/
def held (fields : QrDecodedFields) : Nat :=
  widthOf fields.traceabilityLotCode + widthOf fields.serial

theorem held_record_le :
    held (record field value fields) ≤
      held fields + (value.length + 2) := by
  unfold record
  cases field <;> dsimp only <;> split <;>
    simp only [held, widthOf] <;> omega

theorem held_record_fixed
    {length : Nat}
    (hLength : field.fixedLength = some length) :
    held (record field value fields) = held fields := by
  unfold record
  cases field with
  | gtin => dsimp only; split <;> rfl
  | packDate => dsimp only; split <;> rfl
  | expiry => dsimp only; split <;> rfl
  | lot => simp [Field.fixedLength] at hLength
  | serial => simp [Field.fixedLength] at hLength

/- The boundary is at the next separator at the latest. -/
theorem notMem_take_boundary
    (text : List Char) :
    groupSeparator ∉
      text.take (findNextFieldBoundary text) := by
  induction text with
  | nil => simp
  | cons c rest ih =>
      rw [findNextFieldBoundary]
      split
      · simp
      · rename_i hBoundary
        rw [not_or] at hBoundary
        rw [List.take_succ_cons, List.mem_cons, not_or]
        exact ⟨fun h => hBoundary.1 h.symm, ih⟩

/-
  What a scan reads as lot code and serial fits the room of
  the text, apart from what was set before.
-/
theorem held_scan_le
    (text : List Char)
    (fields : QrDecodedFields) :
    held (scan text fields) ≤ held fields + room text := by
  induction text, fields using scan_induction with
  | nil fields => simp [scan_nil]
  | skip c rest fields hSkip ih =>
      have hMore := room_le_cons c rest
      rw [scan_skip hSkip]
      omega
  | fixed first second text fields field length hRead hLength
      ih =>
      have hRecord :
          held (recordFixed field length text fields) =
            held fields := by
        rw [recordFixed]
        split
        · exact held_record_fixed hLength
        · rfl
      have hDrop : room (text.drop length) ≤ room text :=
        room_drop_le text length
      have hMore := room_le_cons second text
      have hFirst := room_le_cons first (second :: text)
      rw [scan_fixed hRead hLength]
      omega
  | variableLength first second text fields field hRead hLength
      ih =>
      have hRoom := room_read
        (text.drop (findNextFieldBoundary text)) hRead
        (notMem_take_boundary text)
      rw [List.take_append_drop] at hRoom
      have hRecord :
          held (recordVariable field text fields) ≤
            held fields + ((text.take
              (findNextFieldBoundary text)).length + 2) := by
        rw [recordVariable]
        split
        · exact held_record_le
        · exact Nat.le_add_right _ _
      rw [scan_variable hRead hLength]
      omega

end QrDecoder

end RegEngine
