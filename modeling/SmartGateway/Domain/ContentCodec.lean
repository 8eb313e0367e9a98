import SmartGateway.Domain.MessageContent

/-! # The content codec

Reading and writing message content are inverse to each other: what is read is written back as
the same value, what is written for a well-formed content is read back, and the values that are
read are the ones `IsContent` describes member by member.
-/

namespace SmartGateway

open OrderedRows (ok_of_bind exists_mapM forall₂_of_mapM)

/-! ## Well-formed content -/

/-- A part with the texts that have to be there. -/
def MessageContentPart.WellFormed : MessageContentPart → Prop
  | .text _ => True
  | .imageUrl image => image.url ≠ ""
  | .inputAudio audio => audio.data ≠ ""

def MessageContent.WellFormed : MessageContent → Prop
  | .text _ => True
  | .parts items => items ≠ [] ∧ ∀ item ∈ items, item.WellFormed

/-! ## The values of contents -/

/-- The object has members of these names only. -/
def KeysAmong (names : List String) (object : List (String × Json)) : Prop :=
  ∀ entry ∈ object, entry.1 ∈ names

/-- The detail of an image, if there is one, is a known one. -/
def IsDetail (value : Option Json) : Prop :=
  ∀ json, value = some json → ∃ text ∈ ["auto", "low", "high"], json = .string text

inductive IsPart : Json → Prop where
  | text {object : List (String × Json)} {text : String}
    (hkeys : KeysAmong ["type", "text"] object)
    (htype : object.lookup "type" = some (.string "text"))
    (htext : object.lookup "text" = some (.string text)) : IsPart (.object object)
  | imageUrl {object image : List (String × Json)} {url : String}
    (hkeys : KeysAmong ["type", "image_url"] object)
    (htype : object.lookup "type" = some (.string "image_url"))
    (himage : object.lookup "image_url" = some (.object image))
    (himageKeys : KeysAmong ["url", "detail"] image)
    (hurl : image.lookup "url" = some (.string url)) (hfilled : url ≠ "")
    (hdetail : IsDetail (image.lookup "detail")) : IsPart (.object object)
  | inputAudio {object audio : List (String × Json)} {data format : String}
    (hkeys : KeysAmong ["type", "input_audio"] object)
    (htype : object.lookup "type" = some (.string "input_audio"))
    (haudio : object.lookup "input_audio" = some (.object audio))
    (haudioKeys : KeysAmong ["data", "format"] audio)
    (hdata : audio.lookup "data" = some (.string data)) (hfilled : data ≠ "")
    (hformat : audio.lookup "format" = some (.string format))
    (hknown : format ∈ ["wav", "mp3"]) : IsPart (.object object)

inductive IsContent : Json → Prop where
  | text (text : String) : IsContent (.string text)
  | parts {items : List Json} (hfilled : items ≠ []) (hitems : ∀ item ∈ items, IsPart item) :
    IsContent (.array items)

/-! ## The checks of the reader -/

theorem exactKeys_eq_ok {object : List (String × Json)} {allowed : List String} :
    exactKeys object allowed = .ok () ↔ KeysAmong allowed object := by
  rw [exactKeys, KeysAmong]
  constructor
  · intro h
    split at h
    · next hall =>
      intro entry hentry
      exact of_decide_eq_true (List.all_eq_true.mp hall entry hentry)
    · cases h
  · intro h
    apply if_pos
    rw [List.all_eq_true]
    intro entry hentry
    exact decide_eq_true (h entry hentry)

theorem nonEmptyString_eq_ok {object : List (String × Json)} {key text : String} :
    nonEmptyString object key = .ok text ↔
      object.lookup key = some (.string text) ∧ text ≠ "" := by
  rw [nonEmptyString, orMalformed_eq_ok, Option.filter_eq_some_iff, bind_asStr,
    decide_eq_true_eq]

theorem ImageUrlContent.readDetail_ok_iff {value : Option Json} :
    (∃ detail, readDetail value = .ok detail) ↔ IsDetail value := by
  constructor
  · rintro ⟨detail, h⟩ json hjson
    rw [lookup_of_readDetail h] at hjson
    obtain ⟨known, -, rfl⟩ := Option.map_eq_some_iff.mp hjson
    cases known <;> simp [ImageDetail.text]
  · intro h
    cases value with
    | none => exact ⟨none, rfl⟩
    | some json =>
      rcases h json rfl with ⟨text, htext, rfl⟩
      simp only [List.mem_cons, List.not_mem_nil, or_false] at htext
      rcases htext with rfl | rfl | rfl
      · exact ⟨some .auto, rfl⟩
      · exact ⟨some .low, rfl⟩
      · exact ⟨some .high, rfl⟩

theorem AudioFormat.ofText_ok_iff {value : Option String} :
    (∃ format, ofText value = .ok format) ↔ ∃ text ∈ ["wav", "mp3"], value = some text := by
  constructor
  · rintro ⟨format, h⟩
    refine ⟨format.text, ?_, text_of_ofText h⟩
    cases format <;> simp [text]
  · rintro ⟨text, htext, rfl⟩
    simp only [List.mem_cons, List.not_mem_nil, or_false] at htext
    rcases htext with rfl | rfl
    · exact ⟨.wav, rfl⟩
    · exact ⟨.mp3, rfl⟩

namespace MessageContentPart

/-- The reader goes by the type of an object. -/
theorem tryFromJson_object {object : List (String × Json)} {partType : String}
    (h : object.lookup "type" = some (.string partType)) :
    tryFromJson (.object object) = ofObject object partType := by
  change (orMalformed ((object.lookup "type").bind Json.asStr)).bind (ofObject object) = _
  rw [h]
  rfl

/-! ## What is accepted -/

theorem readText_ok_iff {object : List (String × Json)} :
    (∃ part, readText object = .ok part) ↔
      KeysAmong ["type", "text"] object ∧ ∃ text, object.lookup "text" = some (.string text) := by
  constructor
  · rintro ⟨part, h⟩
    obtain ⟨⟨⟩, hkeys, h⟩ := ok_of_bind h
    obtain ⟨text, htext, -⟩ := ok_of_bind h
    exact ⟨exactKeys_eq_ok.mp hkeys, text, bind_asStr.mp (orMalformed_eq_ok.mp htext)⟩
  · rintro ⟨hkeys, text, htext⟩
    refine ⟨.text text, ?_⟩
    rw [readText, exactKeys_eq_ok.mpr hkeys, orMalformed_eq_ok.mpr (bind_asStr.mpr htext)]
    rfl

theorem readImageUrl_ok_iff {object : List (String × Json)} :
    (∃ part, readImageUrl object = .ok part) ↔
      KeysAmong ["type", "image_url"] object ∧
      ∃ image, object.lookup "image_url" = some (.object image) ∧
        KeysAmong ["url", "detail"] image ∧
        (∃ url, image.lookup "url" = some (.string url) ∧ url ≠ "") ∧
        IsDetail (image.lookup "detail") := by
  constructor
  · rintro ⟨part, h⟩
    obtain ⟨⟨⟩, hkeys, h⟩ := ok_of_bind h
    obtain ⟨image, himage, h⟩ := ok_of_bind h
    obtain ⟨⟨⟩, himageKeys, h⟩ := ok_of_bind h
    obtain ⟨url, hurl, h⟩ := ok_of_bind h
    obtain ⟨detail, hdetail, -⟩ := ok_of_bind h
    obtain ⟨value, hvalue, hobject⟩ := Option.bind_eq_some_iff.mp (orMalformed_eq_ok.mp himage)
    rw [asObject_eq_some.mp hobject] at hvalue
    exact ⟨exactKeys_eq_ok.mp hkeys, image, hvalue, exactKeys_eq_ok.mp himageKeys,
      ⟨url, nonEmptyString_eq_ok.mp hurl⟩,
      ImageUrlContent.readDetail_ok_iff.mp ⟨detail, hdetail⟩⟩
  · rintro ⟨hkeys, image, himage, himageKeys, ⟨url, hurl⟩, hdetail⟩
    rcases ImageUrlContent.readDetail_ok_iff.mpr hdetail with ⟨detail, hdetail⟩
    refine ⟨.imageUrl { url, detail }, ?_⟩
    rw [readImageUrl, exactKeys_eq_ok.mpr hkeys, himage]
    change (exactKeys image ["url", "detail"]).bind _ = _
    rw [exactKeys_eq_ok.mpr himageKeys]
    change (nonEmptyString image "url").bind _ = _
    rw [nonEmptyString_eq_ok.mpr hurl]
    change (ImageUrlContent.readDetail (image.lookup "detail")).bind _ = _
    rw [hdetail]
    rfl

theorem readInputAudio_ok_iff {object : List (String × Json)} :
    (∃ part, readInputAudio object = .ok part) ↔
      KeysAmong ["type", "input_audio"] object ∧
      ∃ audio, object.lookup "input_audio" = some (.object audio) ∧
        KeysAmong ["data", "format"] audio ∧
        (∃ data, audio.lookup "data" = some (.string data) ∧ data ≠ "") ∧
        ∃ format ∈ ["wav", "mp3"], audio.lookup "format" = some (.string format) := by
  constructor
  · rintro ⟨part, h⟩
    obtain ⟨⟨⟩, hkeys, h⟩ := ok_of_bind h
    obtain ⟨audio, haudio, h⟩ := ok_of_bind h
    obtain ⟨⟨⟩, haudioKeys, h⟩ := ok_of_bind h
    obtain ⟨data, hdata, h⟩ := ok_of_bind h
    obtain ⟨format, hformat, -⟩ := ok_of_bind h
    obtain ⟨value, hvalue, hobject⟩ := Option.bind_eq_some_iff.mp (orMalformed_eq_ok.mp haudio)
    rw [asObject_eq_some.mp hobject] at hvalue
    rcases AudioFormat.ofText_ok_iff.mp ⟨format, hformat⟩ with ⟨text, htext, hmember⟩
    exact ⟨exactKeys_eq_ok.mp hkeys, audio, hvalue, exactKeys_eq_ok.mp haudioKeys,
      ⟨data, nonEmptyString_eq_ok.mp hdata⟩, text, htext, bind_asStr.mp hmember⟩
  · rintro ⟨hkeys, audio, haudio, haudioKeys, ⟨data, hdata⟩, text, htext, hmember⟩
    rcases AudioFormat.ofText_ok_iff.mpr ⟨text, htext, rfl⟩ with ⟨format, hformat⟩
    refine ⟨.inputAudio { data, format }, ?_⟩
    rw [readInputAudio, exactKeys_eq_ok.mpr hkeys, haudio]
    change (exactKeys audio ["data", "format"]).bind _ = _
    rw [exactKeys_eq_ok.mpr haudioKeys]
    change (nonEmptyString audio "data").bind _ = _
    rw [nonEmptyString_eq_ok.mpr hdata]
    change (AudioFormat.ofText ((audio.lookup "format").bind Json.asStr)).bind _ = _
    rw [bind_asStr.mpr hmember, hformat]
    rfl

/-- The reader accepts the parts, and nothing else. -/
theorem tryFromJson_ok_iff {value : Json} :
    (∃ part, tryFromJson value = .ok part) ↔ IsPart value := by
  constructor
  · rintro ⟨part, h⟩
    obtain ⟨object, hobject, h⟩ := ok_of_bind h
    obtain ⟨partType, hpartType, h⟩ := ok_of_bind h
    rw [asObject_eq_some.mp (orMalformed_eq_ok.mp hobject)]
    have htype := bind_asStr.mp (orMalformed_eq_ok.mp hpartType)
    unfold ofObject at h
    split at h
    · rcases readText_ok_iff.mp ⟨part, h⟩ with ⟨hkeys, text, htext⟩
      exact .text hkeys htype htext
    · rcases readImageUrl_ok_iff.mp ⟨part, h⟩ with
        ⟨hkeys, image, himage, himageKeys, ⟨url, hurl, hfilled⟩, hdetail⟩
      exact .imageUrl hkeys htype himage himageKeys hurl hfilled hdetail
    · rcases readInputAudio_ok_iff.mp ⟨part, h⟩ with
        ⟨hkeys, audio, haudio, haudioKeys, ⟨data, hdata, hfilled⟩, format, hknown, hformat⟩
      exact .inputAudio hkeys htype haudio haudioKeys hdata hfilled hformat hknown
    · cases h
  · intro h
    cases h with
    | text hkeys htype htext =>
      rw [tryFromJson_object htype]
      exact readText_ok_iff.mpr ⟨hkeys, _, htext⟩
    | imageUrl hkeys htype himage himageKeys hurl hfilled hdetail =>
      rw [tryFromJson_object htype]
      exact readImageUrl_ok_iff.mpr
        ⟨hkeys, _, himage, himageKeys, ⟨_, hurl, hfilled⟩, hdetail⟩
    | inputAudio hkeys htype haudio haudioKeys hdata hfilled hformat hknown =>
      rw [tryFromJson_object htype]
      exact readInputAudio_ok_iff.mpr
        ⟨hkeys, _, haudio, haudioKeys, ⟨_, hdata, hfilled⟩, _, hknown, hformat⟩

/-! ## What was written -/

/-- A well-formed part is read back. -/
theorem tryFromJson_toValue {part : MessageContentPart} (h : part.WellFormed) :
    tryFromJson part.toValue = .ok part := by
  cases part with
  | text text => rfl
  | imageUrl image =>
    rcases image with ⟨url, detail⟩
    have hurl : nonEmptyString (member "url" (.string url) ++ optionalMember "detail"
        (fun detail => .string detail.text) detail) "url" = .ok url := by
      refine nonEmptyString_eq_ok.mpr ⟨?_, h⟩
      rw [List.lookup_append, lookup_member]
      rfl
    cases detail with
    | none =>
      change (nonEmptyString _ "url").bind _ = _
      rw [hurl]
      rfl
    | some detail =>
      change (nonEmptyString _ "url").bind _ = _
      rw [hurl]
      cases detail <;> rfl
  | inputAudio audio =>
    rcases audio with ⟨data, format⟩
    have hdata : nonEmptyString (member "data" (.string data) ++
        member "format" (.string format.text)) "data" = .ok data := by
      refine nonEmptyString_eq_ok.mpr ⟨?_, h⟩
      rw [List.lookup_append, lookup_member]
      rfl
    change (nonEmptyString _ "data").bind _ = _
    rw [hdata]
    cases format <;> rfl

/-- What is read has the texts that have to be there. -/
theorem wellFormed_of_tryFromJson {value : Json} {part : MessageContentPart}
    (h : tryFromJson value = .ok part) : part.WellFormed := by
  obtain ⟨object, -, h⟩ := ok_of_bind h
  obtain ⟨partType, -, h⟩ := ok_of_bind h
  unfold ofObject at h
  split at h
  · obtain ⟨⟨⟩, -, h⟩ := ok_of_bind h
    obtain ⟨text, -, h⟩ := ok_of_bind h
    cases h
    trivial
  · obtain ⟨⟨⟩, -, h⟩ := ok_of_bind h
    obtain ⟨image, -, h⟩ := ok_of_bind h
    obtain ⟨⟨⟩, -, h⟩ := ok_of_bind h
    obtain ⟨url, hurl, h⟩ := ok_of_bind h
    obtain ⟨detail, -, h⟩ := ok_of_bind h
    cases h
    exact (nonEmptyString_eq_ok.mp hurl).2
  · obtain ⟨⟨⟩, -, h⟩ := ok_of_bind h
    obtain ⟨audio, -, h⟩ := ok_of_bind h
    obtain ⟨⟨⟩, -, h⟩ := ok_of_bind h
    obtain ⟨data, hdata, h⟩ := ok_of_bind h
    obtain ⟨format, -, h⟩ := ok_of_bind h
    cases h
    exact (nonEmptyString_eq_ok.mp hdata).2
  · cases h

end MessageContentPart

namespace MessageContent

theorem tryFromJson_array {items : List Json} (h : items ≠ []) :
    tryFromJson (.array items) =
      (items.mapM MessageContentPart.tryFromJson).map .parts := by
  cases items with
  | nil => exact absurd rfl h
  | cons first rest =>
    rw [tryFromJson]
    cases (first :: rest).mapM MessageContentPart.tryFromJson <;> rfl

/-- The reader accepts the contents, and nothing else. -/
theorem tryFromJson_ok_iff {value : Json} :
    (∃ content, tryFromJson value = .ok content) ↔ IsContent value := by
  constructor
  · rintro ⟨content, h⟩
    unfold tryFromJson at h
    split at h
    · exact .text _
    · next first rest =>
      obtain ⟨parts, hparts, -⟩ := ok_of_bind h
      refine .parts (by simp) ?_
      intro item hitem
      have hread := forall₂_of_mapM hparts
      rcases List.forall₂_iff_get.mp hread with ⟨hlength, hget⟩
      rcases List.getElem_of_mem hitem with ⟨i, hi, rfl⟩
      exact MessageContentPart.tryFromJson_ok_iff.mp
        ⟨_, hget i hi (by rw [← hlength]; exact hi)⟩
    · cases h
  · intro h
    cases h with
    | text text => exact ⟨.text text, rfl⟩
    | @parts items hfilled hitems =>
      have hread : ∀ item ∈ items, ∃ part, MessageContentPart.tryFromJson item = .ok part :=
        fun item hitem => MessageContentPart.tryFromJson_ok_iff.mpr (hitems item hitem)
      rcases exists_mapM hread with ⟨parts, hparts⟩
      refine ⟨.parts parts, ?_⟩
      rw [tryFromJson_array hfilled, hparts]
      rfl

theorem tryFromJson_toValue {content : MessageContent} (h : content.WellFormed) :
    tryFromJson content.toValue = .ok content := by
  cases content with
  | text text => rfl
  | parts items =>
    rcases h with ⟨hfilled, hitems⟩
    rw [toValue, Json.ofVec, tryFromJson_array (by simpa using hfilled)]
    have hread : (items.map MessageContentPart.toValue).mapM MessageContentPart.tryFromJson =
        .ok items := by
      clear hfilled
      induction items with
      | nil => rfl
      | cons item items ih =>
        rw [List.map_cons, List.mapM_cons,
          MessageContentPart.tryFromJson_toValue (hitems item List.mem_cons_self),
          ih fun other hother => hitems other (List.mem_cons_of_mem _ hother)]
        rfl
    rw [hread]
    rfl

theorem wellFormed_of_tryFromJson {value : Json} {content : MessageContent}
    (h : tryFromJson value = .ok content) : content.WellFormed := by
  unfold tryFromJson at h
  split at h
  · cases h
    trivial
  · next first rest =>
    obtain ⟨parts, hparts, h⟩ := ok_of_bind h
    cases h
    rcases List.forall₂_iff_get.mp (forall₂_of_mapM hparts) with ⟨hlength, hget⟩
    constructor
    · rintro rfl
      cases hlength
    · intro part hpart
      rcases List.getElem_of_mem hpart with ⟨i, hi, rfl⟩
      exact MessageContentPart.wellFormed_of_tryFromJson (hget i (by omega) hi)
  · cases h

end MessageContent

/-- Reading and writing content: what is read is written as it was, exactly the contents are
read, and every well-formed content is read from what is written for it. -/
theorem message_content_codec (value : Json) (content : MessageContent) :
    (MessageContent.tryFromJson value = .ok content → Json.Equal content.toValue value) ∧
    (content.WellFormed → MessageContent.tryFromJson content.toValue = .ok content) ∧
    ((∃ content, MessageContent.tryFromJson value = .ok content) ↔ IsContent value) := by
  refine ⟨?_, MessageContent.tryFromJson_toValue, MessageContent.tryFromJson_ok_iff⟩
  intro h
  exact MessageContent.same_of_tryFromJson Json.Equal.congruence h

end SmartGateway
