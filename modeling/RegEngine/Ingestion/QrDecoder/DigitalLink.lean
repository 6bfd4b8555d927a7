import RegEngine.Ingestion.QrDecoder.Labels

/-
  Which GS1 Digital Links of a GTIN, a lot code and a serial
  the decoder reads back.

  Main declarations:
    * `QrDecoder.digitalLink`
    * `QrDecoder.LinkSafe`
    * `QrDecoder.parseDigitalLink_iff`
-/

--------
-- Segments
--------

namespace RegEngine

namespace QrDecoder

section

variable {text segment : List Char}

theorem segmentsOf_append
    (front back : List Char) :
    segmentsOf (front ++ '/' :: back) =
      segmentsOf front ++ segmentsOf back := by
  rw [segmentsOf, List.splitOn_append_cons_self,
    List.filter_append]
  rfl

/- A text without a slash is one segment. -/
theorem segmentsOf_of_notMem
    (hSlash : '/' ∉ text)
    (hSome : text ≠ []) :
    segmentsOf text = [text] := by
  rw [segmentsOf, List.splitOn_eq_singleton hSlash]
  simp [hSome]

/- A segment stands in the text, and holds no slash. -/
theorem infix_of_mem_segmentsOf
    (hMem : segment ∈ segmentsOf text) :
    segment <:+: text ∧ '/' ∉ segment := by
  induction hLength : text.length using Nat.strong_induction_on
    generalizing text with
  | _ length ih =>
      by_cases hSlash : '/' ∈ text
      · rcases Text.exists_cut hSlash with
          ⟨front, back, hCut, hFront⟩
        rw [hCut, segmentsOf_append, List.mem_append] at hMem
        rw [hCut, List.length_append, List.length_cons]
          at hLength
        rcases hMem with hIn | hIn
        · have hPart := ih front.length (by omega) hIn rfl
          rw [hCut]
          exact ⟨hPart.1.trans
            (List.prefix_append _ _).isInfix, hPart.2⟩
        · have hPart := ih back.length (by omega) hIn rfl
          have hBack : back <:+: front ++ '/' :: back :=
            ⟨front ++ ['/'], [], by simp⟩
          rw [hCut]
          exact ⟨hPart.1.trans hBack, hPart.2⟩
      · rw [segmentsOf, List.splitOn_eq_singleton hSlash,
          List.mem_filter, List.mem_singleton] at hMem
        rw [hMem.1]
        exact ⟨List.infix_rfl, hSlash⟩

/- A text with a slash is longer than its segments. -/
theorem length_lt_of_mem_segmentsOf
    (hMem : segment ∈ segmentsOf text)
    (hSlash : '/' ∈ text) :
    segment.length < text.length := by
  rcases infix_of_mem_segmentsOf hMem with ⟨hInfix, hFree⟩
  apply lt_of_le_of_ne hInfix.length_le
  intro hLength
  rw [hInfix.eq_of_length hLength] at hFree
  exact hFree hSlash

--------
-- Values Of Segments
--------

/- The graphic characters of ASCII. -/
def Graphic (text : List Char) : Prop :=
  ∀ c ∈ text, 32 < c.toNat ∧ c.toNat < 128

theorem Graphic.strip
    (hGraphic : Graphic text) :
    Chars.strip text = text := by
  apply Chars.strip_eq_self
  · intro c hc
    have hCode := hGraphic c (List.mem_of_mem_head? hc)
    exact Chars.isSpace_of_code hCode.1 hCode.2
  · intro c hc
    have hCode := hGraphic c (List.mem_of_mem_getLast? hc)
    exact Chars.isSpace_of_code hCode.1 hCode.2

theorem Graphic.ofPart
    (hGraphic : Graphic text)
    (hInfix : segment <:+: text) :
    Graphic segment :=
  fun c hc => hGraphic c (hInfix.subset hc)

/- A segment without escapes is its own value. -/
theorem segmentValue_eq_self
    (hGraphic : Graphic segment)
    (hEscape : Url.hasEscape segment = false) :
    segmentValue segment = segment := by
  rw [segmentValue, Url.unquote_eq_self
    (fun c hc => (hGraphic c hc).2) hEscape, hGraphic.strip]

theorem length_segmentValue_le
    (segment : List Char) :
    (segmentValue segment).length ≤ segment.length :=
  le_trans (Chars.length_strip_le _)
    (Url.length_unquote_le segment)

/- An escape makes the value shorter. -/
theorem length_segmentValue_lt
    (hGraphic : Graphic segment)
    (hEscape : Url.hasEscape segment = true) :
    (segmentValue segment).length < segment.length :=
  lt_of_le_of_lt (Chars.length_strip_le _)
    (Url.length_unquote_lt (fun c hc => (hGraphic c hc).2)
      hEscape)

end

--------
-- Pairs Of Segments
--------

section

variable {field : Field} {value : List Char}
  {segments : List (List Char)} {fields : QrDecodedFields}

/- The first value behind a field's segment. -/
def firstValue (field : Field) :
    List (List Char) → Option (List Char)
| ai :: segment :: rest =>
    if segmentAi ai = some field ∧ segmentValue segment ≠ [] then
      some (segmentValue segment)
    else
      firstValue field (segment :: rest)
| _ => none

theorem get_record_of_ne
    {other : Field}
    (hNe : field ≠ other) :
    get field (record other value fields) = get field fields := by
  cases other <;> simp only [record] <;> split <;>
    cases field <;> first | rfl | exact absurd rfl hNe

theorem get_linkStep
    {ai segment : List Char} :
    get field (linkStep fields (ai, segment)) =
      if segmentAi ai = some field ∧ segmentValue segment ≠ []
      then get field (record field (segmentValue segment) fields)
      else get field fields := by
  rw [linkStep]
  by_cases hNil : segmentValue segment = []
  · simp [hNil]
  · rw [if_neg hNil]
    cases hAi : segmentAi ai with
    | none => simp
    | some other =>
        by_cases hSame : other = field
        · simp [hSame, hNil]
        · rw [if_neg (by simp [hSame])]
          exact get_record_of_ne (fun h => hSame h.symm)

/- Fields whose values are kept as they are, and once. -/
def IsText (field : Field) : Prop :=
  (∀ value, reading field value = some value) ∧
    Keeps (get field)

theorem isText_lot : IsText .lot :=
  ⟨fun _ => rfl, keeps_lot⟩

theorem isText_serial : IsText .serial :=
  ⟨fun _ => rfl, keeps_serial⟩

theorem isText_gtin : IsText .gtin := by
  refine ⟨fun _ => rfl, ?_⟩
  intro field value fields hSet
  simp only [get] at hSet
  cases field <;> simp only [record] <;> split <;>
    simp_all [get]

/- A field that is set stays as it is. -/
theorem get_foldl_of_set
    (hText : IsText field)
    (pairs : List (List Char × List Char))
    (hSet : isUnset (get field fields) = false) :
    get field (pairs.foldl linkStep fields) =
      get field fields := by
  induction pairs generalizing fields with
  | nil => rfl
  | cons pair rest ih =>
      have hStep :
          get field (linkStep fields pair) = get field fields := by
        rw [get_linkStep]
        split
        · exact hText.2 field _ fields hSet
        · rfl
      rw [List.foldl_cons, ih (hStep ▸ hSet), hStep]

/- The loop keeps the first value of a field. -/
theorem get_foldl_linkStep
    (hText : IsText field)
    (hNone : get field fields = none) :
    get field ((segments.zip segments.tail).foldl linkStep
      fields) = firstValue field segments := by
  fun_induction firstValue field segments generalizing fields with
  | case1 ai segment rest hHere =>
      have hGet :
          get field (linkStep fields (ai, segment)) =
            some (segmentValue segment) := by
        rw [get_linkStep, if_pos hHere, record_of_none hNone,
          get_assign, if_pos rfl, hText.1]
      simp only [List.tail_cons, List.zip_cons_cons,
        List.foldl_cons]
      rw [get_foldl_of_set hText, hGet]
      rw [hGet]
      simpa [isUnset] using hHere.2
  | case2 ai segment rest hElse ih =>
      simp only [List.tail_cons, List.zip_cons_cons,
        List.foldl_cons]
      apply ih
      rw [get_linkStep, if_neg hElse, hNone]
  | case3 segments hShort =>
      rcases segments with - | ⟨first, - | ⟨second, rest⟩⟩
      · exact hNone
      · exact hNone
      · exact absurd rfl (hShort first second rest)

theorem get_readSegments
    (segments : List (List Char))
    (hText : IsText field) :
    get field (readSegments segments) =
      firstValue field segments := by
  apply get_foldl_linkStep hText
  cases field <;> rfl

/- A value that is read stands behind the first segment. -/
theorem mem_of_firstValue
    {first : List Char}
    (hRead : firstValue field (first :: segments) =
      some value) :
    ∃ segment ∈ segments, segmentValue segment = value := by
  induction segments generalizing first with
  | nil => cases hRead
  | cons segment rest ih =>
      rw [firstValue] at hRead
      split at hRead
      · exact ⟨segment, by simp, Option.some.inj hRead⟩
      · rcases ih hRead with ⟨other, hOther, hValue⟩
        exact ⟨other, List.mem_cons_of_mem _ hOther, hValue⟩

end

--------
-- Links Of A GTIN, A Lot Code And A Serial
--------

section

open Gs1128 (Admits)

variable {refused : List Char → Bool}
  {gtin lot serial text : List Char}

/- The link `/01/gtin/10/lot/21/serial`. -/
def digitalLink (gtin lot serial : List Char) : List Char :=
  '/' :: '0' :: '1' :: '/' :: (gtin ++
    '/' :: '1' :: '0' :: '/' :: (lot ++
      '/' :: '2' :: '1' :: '/' :: serial))

/- The text before the first question mark. -/
def beforeQuery (text : List Char) : List Char :=
  text.takeWhile (· ≠ '?')

/- The segments behind the one of the lot code. -/
def lotSegments (lot serial : List Char) : List (List Char) :=
  if '?' ∈ lot then
    segmentsOf (beforeQuery lot)
  else
    segmentsOf lot ++
      ['2', '1'] :: segmentsOf (beforeQuery serial)

theorem beforeQuery_append
    (hFree : '?' ∉ text)
    (rest : List Char) :
    beforeQuery (text ++ rest) = text ++ beforeQuery rest := by
  apply List.takeWhile_append_of_pos
  intro c hc
  simpa using fun h : c = '?' => hFree (h ▸ hc)

theorem beforeQuery_of_mem
    (hMem : '?' ∈ text)
    (rest : List Char) :
    beforeQuery (text ++ rest) = beforeQuery text := by
  rcases Text.exists_cut hMem with ⟨front, back, hCut, hFront⟩
  have hStop :
      ∀ later, beforeQuery (front ++ '?' :: later) = front := by
    intro later
    rw [beforeQuery_append hFront]
    simp [beforeQuery]
  rw [hCut, List.append_assoc, List.cons_append, hStop, hStop]

/- A text is cut off at a question mark. -/
theorem length_beforeQuery_lt
    (hMem : '?' ∈ text) :
    (beforeQuery text).length < text.length := by
  rcases Text.exists_cut hMem with ⟨front, back, hCut, hFront⟩
  rw [hCut, beforeQuery_append hFront]
  simp [beforeQuery]

theorem beforeQuery_of_notMem
    (hFree : '?' ∉ text) :
    beforeQuery text = text := by
  have hCut := beforeQuery_append hFree []
  rw [List.append_nil] at hCut
  rw [hCut]
  simp [beforeQuery]

theorem segmentsOf_cons
    {front : List Char}
    (hSlash : '/' ∉ front)
    (hSome : front ≠ [])
    (back : List Char) :
    segmentsOf (front ++ '/' :: back) =
      front :: segmentsOf back := by
  rw [segmentsOf_append, segmentsOf_of_notMem hSlash hSome]
  rfl

theorem segmentsOf_lot
    (lot serial : List Char) :
    segmentsOf (beforeQuery (lot ++
      ('/' :: ['2', '1'] ++ '/' :: serial))) =
        lotSegments lot serial := by
  rw [lotSegments]
  split
  · rename_i hQuery
    rw [beforeQuery_of_mem hQuery]
  · rename_i hQuery
    rw [beforeQuery_append hQuery,
      show '/' :: ['2', '1'] ++ '/' :: serial =
        ['/', '2', '1', '/'] ++ serial from rfl,
      beforeQuery_append (by decide), List.cons_append,
      segmentsOf_append]
    congr 1

theorem segmentsOf_link
    (lot serial : List Char)
    (hDigits : gtin.all Char.isDigit = true)
    (hGtin : gtin ≠ []) :
    segmentsOf (beforeQuery (digitalLink gtin lot serial)) =
      ['0', '1'] :: gtin :: ['1', '0'] ::
        lotSegments lot serial := by
  have hFree : ∀ c : Char, c.toNat < 48 ∨ 57 < c.toNat →
      c ∉ gtin := by
    intro c hCode hMem
    have hRange := Gs1128.code_of_isDigit
      (List.all_eq_true.mp hDigits c hMem)
    omega
  have hOpen :
      '?' ∉ ['/', '0', '1', '/'] ++
        (gtin ++ ['/', '1', '0', '/']) := by
    have hMark := hFree '?' (by decide)
    simp [hMark]
  have hLink :
      digitalLink gtin lot serial =
        (['/', '0', '1', '/'] ++
          (gtin ++ ['/', '1', '0', '/'])) ++
          (lot ++ ('/' :: ['2', '1'] ++ '/' :: serial)) := by
    simp [digitalLink]
  have hParts :
      ∀ rest, (['/', '0', '1', '/'] ++
          (gtin ++ ['/', '1', '0', '/'])) ++ rest =
        [] ++ '/' :: (['0', '1'] ++ '/' :: (gtin ++ '/' ::
          (['1', '0'] ++ '/' :: rest))) := by
    intro rest
    simp
  rw [hLink, beforeQuery_append hOpen, hParts,
    segmentsOf_append, segmentsOf_cons (by decide) (by decide),
    segmentsOf_cons (hFree '/' (by decide)) hGtin,
    segmentsOf_cons (by decide) (by decide), segmentsOf_lot]
  rfl

end

--------
-- Safe Links
--------

section

open Gs1128 (Admits)

variable {lot serial value segment : List Char}

/- A value that a path keeps: no slash, query or escape. -/
def isPathSafe (value : List Char) : Bool :=
  !value.contains '/' && !value.contains '?' &&
    !Url.hasEscape value

/-
  A lot code and a serial that a link keeps. A lot code 21 is
  taken for the application identifier of the serial.
-/
def isLinkSafe (lot serial : List Char) : Bool :=
  isPathSafe lot && isPathSafe serial &&
    (lot != ['2', '1'] || serial == ['2', '1'])

theorem isPathSafe_iff :
    isPathSafe value = true ↔
      '/' ∉ value ∧ '?' ∉ value ∧
        Url.hasEscape value = false := by
  simp [isPathSafe, and_assoc]

/- A path safe text is one segment, its own value. -/
theorem segmentsOf_of_isPathSafe
    (hGraphic : Graphic value)
    (hSome : value ≠ [])
    (hSafe : isPathSafe value = true) :
    segmentsOf (beforeQuery value) = [value] ∧
      segmentValue value = value := by
  rw [isPathSafe_iff] at hSafe
  rcases hSafe with ⟨hSlash, hQuery, hEscape⟩
  rw [beforeQuery_of_notMem hQuery]
  exact ⟨segmentsOf_of_notMem hSlash hSome,
    segmentValue_eq_self hGraphic hEscape⟩

/- Only a path safe text is read whole from its path. -/
theorem isPathSafe_of_segment
    (hGraphic : Graphic value)
    (hMem : segment ∈ segmentsOf (beforeQuery value))
    (hValue : segmentValue segment = value) :
    isPathSafe value = true := by
  have hInfix := (infix_of_mem_segmentsOf hMem).1
  have hPrefix : beforeQuery value <:+: value :=
    (List.takeWhile_prefix _).isInfix
  have hSegment := hGraphic.ofPart (hInfix.trans hPrefix)
  have hShort := length_segmentValue_le segment
  rw [hValue] at hShort
  have hPart := hInfix.length_le
  have hQuery : '?' ∉ value := by
    intro hMark
    have hLess := length_beforeQuery_lt hMark
    omega
  rw [beforeQuery_of_notMem hQuery] at hMem hPart
  have hSlash : '/' ∉ value := by
    intro hMark
    have hLess := length_lt_of_mem_segmentsOf hMem hMark
    omega
  have hEscape : Url.hasEscape value = false := by
    have hSame : segment = value :=
      (infix_of_mem_segmentsOf hMem).1.eq_of_length (by omega)
    rw [Bool.eq_false_iff]
    intro hMark
    have hLess := length_segmentValue_lt hGraphic hMark
    rw [← hSame, hValue, hSame] at hLess
    omega
  rw [isPathSafe_iff]
  exact ⟨hSlash, hQuery, hEscape⟩

theorem readAi_eq_serial
    {first second : Char} :
    readAi first second = some .serial ↔
      first = '2' ∧ second = '1' := by
  constructor
  · intro hRead
    simp only [readAi] at hRead
    split at hRead; · cases hRead
    split at hRead; · cases hRead
    split at hRead; · cases hRead
    split at hRead; · cases hRead
    split at hRead
    · assumption
    · cases hRead
  · rintro ⟨rfl, rfl⟩
    rfl

theorem segmentAi_eq_serial :
    segmentAi segment = some .serial ↔
      segment = ['2', '1'] := by
  constructor
  · intro hAi
    rw [segmentAi.eq_def] at hAi
    split at hAi
    · rcases readAi_eq_serial.mp hAi with ⟨hFirst, hSecond⟩
      rw [hFirst, hSecond]
    · cases hAi
  · rintro rfl
    rfl

/- The serial behind its own segment. -/
theorem firstValue_serial_iff
    (hGraphic : Graphic serial)
    (hSome : serial ≠ []) :
    firstValue .serial (['2', '1'] ::
        segmentsOf (beforeQuery serial)) = some serial ↔
      isPathSafe serial = true := by
  constructor
  · intro hRead
    rcases mem_of_firstValue hRead with ⟨segment, hMem, hValue⟩
    exact isPathSafe_of_segment hGraphic hMem hValue
  · intro hSafe
    rcases segmentsOf_of_isPathSafe hGraphic hSome hSafe with
      ⟨hSegments, hValue⟩
    rw [hSegments, firstValue, hValue, if_pos ⟨rfl, hSome⟩]

/- The segments behind a lot code without slash or query. -/
theorem lotSegments_of_free
    (hSlash : '/' ∉ lot)
    (hQuery : '?' ∉ lot)
    (hSome : lot ≠ []) :
    lotSegments lot serial =
      lot :: ['2', '1'] ::
        segmentsOf (beforeQuery serial) := by
  rw [lotSegments, if_neg hQuery,
    segmentsOf_of_notMem hSlash hSome]
  rfl

/- The link of a lot code that the path keeps. -/
theorem link_of_isPathSafe
    (hLot : Graphic lot)
    (hLotSome : lot ≠ [])
    (hSerial : Graphic serial)
    (hSerialSome : serial ≠ [])
    (hSafe : isPathSafe lot = true) :
    firstValue .lot (['1', '0'] :: lotSegments lot serial) =
        some lot ∧
      (firstValue .serial (['1', '0'] ::
          lotSegments lot serial) = some serial ↔
        isLinkSafe lot serial = true) := by
  have hFree := hSafe
  rw [isPathSafe_iff] at hFree
  rcases hFree with ⟨hSlash, hQuery, hEscape⟩
  have hValue := segmentValue_eq_self hLot hEscape
  rw [lotSegments_of_free hSlash hQuery hLotSome]
  refine ⟨?_, ?_⟩
  · rw [firstValue, hValue, if_pos ⟨rfl, hLotSome⟩]
  · rw [firstValue, if_neg (by simp [segmentAi, readAi]),
      firstValue]
    by_cases hTwentyOne : lot = ['2', '1']
    · have hAi : segmentAi lot = some .serial :=
        segmentAi_eq_serial.mpr hTwentyOne
      have hDigits :
          segmentValue ['2', '1'] = ['2', '1'] := by decide
      rw [hDigits, if_pos ⟨hAi, by simp⟩]
      constructor
      · intro hSame
        rw [← Option.some.inj hSame, hTwentyOne]
        decide
      · intro hLink
        rw [isLinkSafe, Bool.and_eq_true] at hLink
        have hSame : serial = ['2', '1'] := by
          simpa [hTwentyOne] using hLink.2
        rw [hSame]
    · have hAi : segmentAi lot ≠ some .serial :=
        fun h => hTwentyOne (segmentAi_eq_serial.mp h)
      rw [if_neg (by simp [hAi]),
        firstValue_serial_iff hSerial hSerialSome]
      simp [isLinkSafe, hSafe, hTwentyOne]

/- A lot code with a query is cut off. -/
theorem not_lot_of_query
    (hLot : Graphic lot)
    (hQuery : '?' ∈ lot) :
    firstValue .lot (['1', '0'] :: lotSegments lot serial) ≠
      some lot := by
  intro hRead
  rcases mem_of_firstValue hRead with ⟨segment, hMem, hValue⟩
  rw [lotSegments, if_pos hQuery] at hMem
  have hSafe := isPathSafe_of_segment hLot hMem hValue
  rw [isPathSafe_iff] at hSafe
  exact hSafe.2.1 hQuery

/-
  A lot code with a slash is read whole only from the segments
  of the serial, and then the serial is not.
-/
theorem not_link_of_slash
    (hSerial : Graphic serial)
    (hQuery : '?' ∉ lot)
    (hSlash : '/' ∈ lot)
    (hReadLot : firstValue .lot
      (['1', '0'] :: lotSegments lot serial) = some lot)
    (hReadSerial : firstValue .serial
      (['1', '0'] :: lotSegments lot serial) = some serial) :
    False := by
  have hDigits : segmentValue ['2', '1'] = ['2', '1'] := by
    decide
  have hLonger :
      ∀ segment ∈ segmentsOf lot,
        (segmentValue segment).length < lot.length := by
    intro segment hMem
    have hInfix := (infix_of_mem_segmentsOf hMem).1
    exact lt_of_le_of_lt
      (length_segmentValue_le _)
      (length_lt_of_mem_segmentsOf hMem hSlash)
  have hPrefix : beforeQuery serial <:+: serial :=
    (List.takeWhile_prefix _).isInfix
  rcases mem_of_firstValue hReadLot with
    ⟨segment, hMem, hValue⟩
  rcases mem_of_firstValue hReadSerial with
    ⟨other, hOther, hOtherValue⟩
  rw [lotSegments, if_neg hQuery, List.mem_append,
    List.mem_cons] at hMem hOther
  have hIn : segment ∈ segmentsOf (beforeQuery serial) := by
    rcases hMem with hHere | hAi | hLater
    · have hLess := hLonger segment hHere
      rw [hValue] at hLess
      exact absurd hLess (lt_irrefl _)
    · rw [hAi, hDigits] at hValue
      rw [← hValue] at hSlash
      exact absurd hSlash (by decide)
    · exact hLater
  have hFits : lot.length ≤ serial.length := by
    have hInfix := (infix_of_mem_segmentsOf hIn).1.trans hPrefix
    rw [← hValue]
    exact le_trans
      (length_segmentValue_le _)
      hInfix.length_le
  have hSafe : isPathSafe serial = true := by
    rcases hOther with hHere | hAi | hLater
    · have hLess := hLonger other hHere
      rw [hOtherValue] at hLess
      omega
    · rw [hAi, hDigits] at hOtherValue
      rw [← hOtherValue]
      decide
    · exact isPathSafe_of_segment hSerial hLater hOtherValue
  have hSome : serial ≠ [] := by
    intro hNil
    rw [hNil] at hFits
    have hEmpty : lot = [] :=
      List.length_eq_zero_iff.mp (by simpa using hFits)
    rw [hEmpty] at hSlash
    simp at hSlash
  rcases segmentsOf_of_isPathSafe hSerial hSome hSafe with
    ⟨hSegments, hSelf⟩
  rw [hSegments, List.mem_singleton] at hIn
  rw [hIn, hSelf] at hValue
  rw [← hValue] at hSlash
  rw [isPathSafe_iff] at hSafe
  exact hSafe.1 hSlash

/-
  A lot code with an escape is read whole only from behind the
  serial, which is the last segment when it is read whole.
-/
theorem not_link_of_escape
    (hLot : Graphic lot)
    (hSerial : Graphic serial)
    (hSome : lot ≠ [])
    (hSerialSome : serial ≠ [])
    (hQuery : '?' ∉ lot)
    (hSlash : '/' ∉ lot)
    (hEscape : Url.hasEscape lot = true)
    (hReadLot : firstValue .lot
      (['1', '0'] :: lotSegments lot serial) = some lot)
    (hReadSerial : firstValue .serial
      (['1', '0'] :: lotSegments lot serial) = some serial) :
    False := by
  have hShort := length_segmentValue_lt hLot hEscape
  have hAi : segmentAi lot = none := by
    match lot with
    | [] => exact absurd rfl hSome
    | [_] => rfl
    | [_, _] => exact absurd hEscape (by simp [Url.hasEscape])
    | _ :: _ :: _ :: _ => rfl
  rw [lotSegments_of_free hSlash hQuery hSome]
    at hReadLot hReadSerial
  rw [firstValue, if_neg (by simp [segmentAi, readAi]),
    firstValue, if_neg (by simp [hAi]),
    firstValue_serial_iff hSerial hSerialSome] at hReadSerial
  rw [(segmentsOf_of_isPathSafe hSerial hSerialSome
    hReadSerial).1] at hReadLot
  rw [firstValue] at hReadLot
  split at hReadLot
  · rw [Option.some.inj hReadLot] at hShort
    exact absurd hShort (lt_irrefl _)
  · rw [firstValue, if_neg (by simp [hAi]), firstValue,
      if_neg (by simp [segmentAi, readAi])] at hReadLot
    cases hReadLot

/- Which links of a lot code and a serial are read back. -/
theorem firstValue_link_iff
    (hLot : Graphic lot)
    (hLotSome : lot ≠ [])
    (hSerial : Graphic serial)
    (hSerialSome : serial ≠ []) :
    (firstValue .lot (['1', '0'] :: lotSegments lot serial) =
        some lot ∧
      firstValue .serial
        (['1', '0'] :: lotSegments lot serial) = some serial) ↔
      isLinkSafe lot serial = true := by
  cases hSafe : isPathSafe lot with
  | true =>
      rcases link_of_isPathSafe hLot hLotSome hSerial
          hSerialSome hSafe with ⟨hReadLot, hReadSerial⟩
      rw [← hReadSerial]
      exact and_iff_right hReadLot
  | false =>
      refine iff_of_false ?_ (by simp [isLinkSafe, hSafe])
      intro hRead
      by_cases hQuery : '?' ∈ lot
      · exact not_lot_of_query hLot hQuery hRead.1
      · by_cases hSlash : '/' ∈ lot
        · exact not_link_of_slash hSerial hQuery hSlash
            hRead.1 hRead.2
        · have hEscape : Url.hasEscape lot = true := by
            by_contra hNone
            rw [Bool.not_eq_true] at hNone
            have hTrue := isPathSafe_iff.mpr
              ⟨hSlash, hQuery, hNone⟩
            rw [hSafe] at hTrue
            exact absurd hTrue Bool.false_ne_true
          exact not_link_of_escape hLot hSerial hLotSome
            hSerialSome hQuery hSlash hEscape hRead.1 hRead.2

end

--------
-- The Link Is Read
--------

open Gs1128 (Admits)

variable {refused : List Char → Bool}
  {gtin lot serial : List Char}

/- The decoded fields have the three values. -/
def HasTriple
    (gtin lot serial : List Char)
    (fields : QrDecodedFields) : Prop :=
  fields.gtin = some gtin ∧
    fields.traceabilityLotCode = some lot ∧
    fields.serial = some serial

instance
    (gtin lot serial : List Char)
    (fields : QrDecodedFields) :
    Decidable (HasTriple gtin lot serial fields) := by
  unfold HasTriple
  infer_instance

/- The check of the GTIN changes no other field. -/
theorem get_withValidGtin
    (field : Field)
    (fields : QrDecodedFields) :
    get field (withValidGtin fields) = get field fields := by
  rw [withValidGtin]
  split
  · rfl
  · cases field <;> rfl

theorem graphic_of_admits_text
    {ai : Gs1128.Ai}
    {value : List Char}
    (hKind : ai.spec.kind = .text)
    (hAdmits : Admits ai value) :
    Graphic value := by
  simp only [Admits, hKind] at hAdmits
  exact fun c hc => Gs1128.code_of_mem_cset82 (hAdmits.1 c hc)

theorem graphic_of_digits
    (hDigits : gtin.all Char.isDigit = true) :
    Graphic gtin := by
  intro c hc
  have hCode := Gs1128.code_of_isDigit
    (List.all_eq_true.mp hDigits c hc)
  omega

theorem graphic_digitalLink
    (hGtin : Graphic gtin)
    (hLot : Graphic lot)
    (hSerial : Graphic serial) :
    Graphic (digitalLink gtin lot serial) := by
  have hMarks :
      Graphic ['/', '0', '1', '2'] := by
    apply Text.forall_of_all
    decide
  intro c hc
  simp only [digitalLink, List.mem_cons, List.mem_append] at hc
  have hCases :
      c ∈ ['/', '0', '1', '2'] ∨ c ∈ gtin ∨ c ∈ lot ∨
        c ∈ serial := by
    simp only [List.mem_cons, List.not_mem_nil, or_false]
    tauto
  rcases hCases with hMark | hIn | hIn | hIn
  · exact hMarks c hMark
  · exact hGtin c hIn
  · exact hLot c hIn
  · exact hSerial c hIn

/- A GTIN is no application identifier, and its own value. -/
theorem gtin_segment
    (hDigits : gtin.all Char.isDigit = true)
    (hLength : gtin.length = 14) :
    segmentAi gtin = none ∧ segmentValue gtin = gtin := by
  constructor
  · rw [segmentAi.eq_def]
    split
    · simp at hLength
    · rfl
  · apply segmentValue_eq_self (graphic_of_digits hDigits)
    rw [Bool.eq_false_iff]
    intro hEscape
    have hMark := Url.mem_of_hasEscape hEscape
    have hCode := Gs1128.code_of_isDigit
      (List.all_eq_true.mp hDigits '%' hMark)
    exact absurd hCode.1 (by decide)

/- The path of a link ends at the query. -/
theorem linkPath_digitalLink
    (hHash : '#' ∉ digitalLink gtin lot serial) :
    linkPath refused (digitalLink gtin lot serial) =
      some (beforeQuery (digitalLink gtin lot serial)) := by
  have hHead :
      (digitalLink gtin lot serial).head? = some '/' := rfl
  rw [linkPath, if_pos hHead]
  congr 1
  apply List.takeWhile_eq_self_iff.mpr
  intro c hc
  have hIn := (List.takeWhile_prefix _).subset hc
  simpa using fun h : c = '#' => hHash (h ▸ hIn)

/- What is read of a link of an accepted GTIN. -/
theorem parseGs1Payload_digitalLink
    (hGraphic : Graphic (digitalLink gtin lot serial))
    (hHash : '#' ∉ digitalLink gtin lot serial)
    (hGtin : Admits .gtin gtin) :
    parseGs1Payload refused (digitalLink gtin lot serial) =
      withValidGtin (readSegments
        (['0', '1'] :: gtin :: ['1', '0'] ::
          lotSegments lot serial)) := by
  have hDigits : gtin.all Char.isDigit = true := hGtin.1
  have hValue := (gtin_segment hDigits hGtin.2).2
  have hRead :
      (readSegments (['0', '1'] :: gtin :: ['1', '0'] ::
        lotSegments lot serial)).gtin = some gtin := by
    have hFirst := get_readSegments
      (['0', '1'] :: gtin :: ['1', '0'] ::
        lotSegments lot serial) isText_gtin
    rw [firstValue, hValue, if_pos ⟨rfl, hGtin.ne_nil⟩] at hFirst
    exact hFirst
  have hSet : isUnset (some gtin) = false := by
    simpa [isUnset] using hGtin.ne_nil
  have hSome : digitalLink gtin lot serial ≠ [] := by
    simp [digitalLink]
  have hParse :
      parseDigitalLink refused (digitalLink gtin lot serial) =
        some (withValidGtin (readSegments
          (['0', '1'] :: gtin :: ['1', '0'] ::
            lotSegments lot serial))) := by
    simp only [parseDigitalLink]
    rw [hGraphic.strip, if_neg hSome,
      linkPath_digitalLink hHash]
    simp only [segmentsOf_link lot serial hDigits hGtin.ne_nil]
    rw [if_neg (by simp), if_neg (by simp [hRead, hSet])]
  rw [parseGs1Payload, hParse]

/- A link holds no fragment. -/
theorem hash_notMem_digitalLink
    (hGtin : Admits .gtin gtin)
    (hLot : Admits .lot lot)
    (hSerial : Admits .serial serial) :
    '#' ∉ digitalLink gtin lot serial := by
  have hSet : '#' ∉ Gs1128.cset82 := by decide
  have hGtinFree : '#' ∉ gtin := by
    intro hMem
    have hCode := Gs1128.code_of_isDigit
      (List.all_eq_true.mp hGtin.1 '#' hMem)
    exact absurd hCode.1 (by decide)
  have hLotFree : '#' ∉ lot := fun h => hSet (hLot.1 _ h)
  have hSerialFree : '#' ∉ serial :=
    fun h => hSet (hSerial.1 _ h)
  simp [digitalLink, hGtinFree, hLotFree, hSerialFree]

/-
  The link of an accepted GTIN, lot code and serial is read
  back just when it is safe.
-/
theorem parseDigitalLink_iff
    (hGtin : Admits .gtin gtin)
    (hLot : Admits .lot lot)
    (hSerial : Admits .serial serial) :
    HasTriple gtin lot serial (parseGs1Payload refused
        (digitalLink gtin lot serial)) ↔
      isLinkSafe lot serial = true := by
  have hLotGraphic := graphic_of_admits_text rfl hLot
  have hSerialGraphic := graphic_of_admits_text rfl hSerial
  have hDigits : gtin.all Char.isDigit = true := hGtin.1
  have hGraphic := graphic_digitalLink
    (graphic_of_digits hDigits) hLotGraphic hSerialGraphic
  have hHash := hash_notMem_digitalLink hGtin hLot hSerial
  rcases gtin_segment hDigits hGtin.2 with ⟨hAi, hValue⟩
  have hGet :
      ∀ field, IsText field →
        get field (parseGs1Payload refused
          (digitalLink gtin lot serial)) =
          firstValue field (['0', '1'] :: gtin :: ['1', '0'] ::
            lotSegments lot serial) := by
    intro field hText
    rw [parseGs1Payload_digitalLink hGraphic hHash hGtin,
      get_withValidGtin, get_readSegments _ hText]
  have hReadGtin := hGet .gtin isText_gtin
  rw [firstValue, hValue, if_pos ⟨rfl, hGtin.ne_nil⟩]
    at hReadGtin
  have hSkip :
      ∀ field, field ≠ .gtin →
        firstValue field (['0', '1'] :: gtin :: ['1', '0'] ::
          lotSegments lot serial) =
            firstValue field
              (['1', '0'] :: lotSegments lot serial) := by
    intro field hField
    have hOther : segmentAi ['0', '1'] ≠ some field :=
      fun h => hField (Option.some.inj h).symm
    rw [firstValue, if_neg (by simp [hOther]), firstValue,
      if_neg (by simp [hAi])]
  have hReadLot := hGet .lot isText_lot
  have hReadSerial := hGet .serial isText_serial
  rw [hSkip .lot (by decide)] at hReadLot
  rw [hSkip .serial (by decide)] at hReadSerial
  simp only [get] at hReadGtin hReadLot hReadSerial
  rw [HasTriple, hReadGtin, hReadLot, hReadSerial,
    and_iff_right rfl]
  exact firstValue_link_iff hLotGraphic hLot.ne_nil
    hSerialGraphic hSerial.ne_nil

end QrDecoder

end RegEngine
