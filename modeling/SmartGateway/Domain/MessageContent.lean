import SmartGateway.Lib.OrderedRows
import SmartGateway.Domain.JsonAgreement

/-! # Message content

Canonical chat content: a text, or typed parts. Reading a content checks the names of all
members at every level, so nothing of an accepted content is lost: what is written for it
is the value it was read from (`same_of_tryFromJson`).
-/

namespace SmartGateway

/-! ## Content -/

inductive ImageDetail where
  | auto
  | low
  | high
deriving DecidableEq

structure ImageUrlContent where
  url : String
  detail : Option ImageDetail
deriving DecidableEq

inductive AudioFormat where
  | wav
  | mp3
deriving DecidableEq

structure InputAudioContent where
  data : String
  format : AudioFormat
deriving DecidableEq

inductive MessageContentPart where
  | text (text : String)
  | imageUrl (imageUrl : ImageUrlContent)
  | inputAudio (inputAudio : InputAudioContent)
deriving DecidableEq

/-- Canonical chat content. -/
inductive MessageContent where
  | text (text : String)
  | parts (parts : List MessageContentPart)
deriving DecidableEq

structure ChatMessage where
  role : String
  content : MessageContent
deriving DecidableEq

inductive MessageContentError where
  | malformedContent
  | malformedPart
  | unsupportedPartType
deriving DecidableEq

def MessageContentError.message : MessageContentError → String
  | .malformedContent =>
    "message content must be a string or a non-empty array of supported parts"
  | .malformedPart => "message content part is malformed"
  | .unsupportedPartType => "message content part type is unsupported"

/-! ## Writing -/

def ImageDetail.text : ImageDetail → String
  | .auto => "auto"
  | .low => "low"
  | .high => "high"

def AudioFormat.text : AudioFormat → String
  | .wav => "wav"
  | .mp3 => "mp3"

def ImageUrlContent.toValue (image : ImageUrlContent) : Json :=
  .object <|
    member "url" (.string image.url) ++
    optionalMember "detail" (fun detail => .string detail.text) image.detail

def InputAudioContent.toValue (audio : InputAudioContent) : Json :=
  .object <|
    member "data" (.string audio.data) ++
    member "format" (.string audio.format.text)

def MessageContentPart.toValue : MessageContentPart → Json
  | .text value => .object (member "type" (.string "text") ++ member "text" (.string value))
  | .imageUrl image =>
    .object (member "type" (.string "image_url") ++ member "image_url" image.toValue)
  | .inputAudio audio =>
    .object (member "type" (.string "input_audio") ++ member "input_audio" audio.toValue)

def MessageContent.toValue : MessageContent → Json
  | .text value => .string value
  | .parts items => .ofVec MessageContentPart.toValue items

/-! ## Reading -/

def exactKeys (object : List (String × Json)) (allowed : List String) :
    Except MessageContentError Unit :=
  if object.all fun entry => entry.1 ∈ allowed then .ok () else .error .malformedPart

/-- `ok_or(MalformedPart)`. -/
def orMalformed {α : Type} : Option α → Except MessageContentError α
  | none => .error .malformedPart
  | some value => .ok value

def nonEmptyString (object : List (String × Json)) (key : String) :
    Except MessageContentError String :=
  orMalformed (((object.lookup key).bind Json.asStr).filter fun value => value ≠ "")

def ImageDetail.ofText : String → Except MessageContentError ImageDetail
  | "auto" => .ok .auto
  | "low" => .ok .low
  | "high" => .ok .high
  | _ => .error .malformedPart

/-- The optional `detail` of an image: a member that is there has to be a text. -/
def ImageUrlContent.readDetail : Option Json → Except MessageContentError (Option ImageDetail)
  | none => .ok none
  | some value => do
    let text ← orMalformed value.asStr
    let detail ← ImageDetail.ofText text
    return some detail

def AudioFormat.ofText : Option String → Except MessageContentError AudioFormat
  | some "wav" => .ok .wav
  | some "mp3" => .ok .mp3
  | _ => .error .malformedPart

namespace MessageContentPart

def readText (object : List (String × Json)) : Except MessageContentError MessageContentPart := do
  exactKeys object ["type", "text"]
  let text ← orMalformed ((object.lookup "text").bind Json.asStr)
  return .text text

def readImageUrl (object : List (String × Json)) :
    Except MessageContentError MessageContentPart := do
  exactKeys object ["type", "image_url"]
  let image ← orMalformed ((object.lookup "image_url").bind Json.asObject)
  exactKeys image ["url", "detail"]
  let url ← nonEmptyString image "url"
  let detail ← ImageUrlContent.readDetail (image.lookup "detail")
  return .imageUrl { url, detail }

def readInputAudio (object : List (String × Json)) :
    Except MessageContentError MessageContentPart := do
  exactKeys object ["type", "input_audio"]
  let audio ← orMalformed ((object.lookup "input_audio").bind Json.asObject)
  exactKeys audio ["data", "format"]
  let data ← nonEmptyString audio "data"
  let format ← AudioFormat.ofText ((audio.lookup "format").bind Json.asStr)
  return .inputAudio { data, format }

/-- The part of an object, by its type. -/
def ofObject (object : List (String × Json)) (partType : String) :
    Except MessageContentError MessageContentPart :=
  match partType with
  | "text" => readText object
  | "image_url" => readImageUrl object
  | "input_audio" => readInputAudio object
  | _ => .error .unsupportedPartType

def tryFromJson (value : Json) : Except MessageContentError MessageContentPart := do
  let object ← orMalformed value.asObject
  let partType ← orMalformed ((object.lookup "type").bind Json.asStr)
  ofObject object partType

end MessageContentPart

def MessageContent.tryFromJson : Json → Except MessageContentError MessageContent
  | .string value => .ok (.text value)
  | .array (first :: rest) => do
    let items ← (first :: rest).mapM MessageContentPart.tryFromJson
    return .parts items
  | _ => .error .malformedContent

/-! ## Nothing of an accepted content is lost -/

open OrderedRows (ok_of_bind forall₂_of_mapM)
open Json (Agree Congruence)

theorem orMalformed_eq_ok {α : Type} {value : Option α} {result : α} :
    orMalformed value = .ok result ↔ value = some result := by
  cases value with
  | none => simp [orMalformed]
  | some value => simp [orMalformed]

/-- An object with exact keys has no member of another name. -/
theorem lookup_of_exactKeys {object : List (String × Json)} {allowed : List String}
    (h : exactKeys object allowed = .ok ()) {name : String} (hname : name ∉ allowed) :
    object.lookup name = none := by
  unfold exactKeys at h
  split at h
  · next hall =>
    rw [List.lookup_eq_none_iff]
    intro entry hentry
    have hallowed := List.all_eq_true.mp hall entry hentry
    rw [decide_eq_true_eq] at hallowed
    rw [bne_iff_ne]
    intro hsame
    exact hname (hsame ▸ hallowed)
  · cases h

theorem asStr_eq_some {value : Json} {text : String} :
    value.asStr = some text ↔ value = .string text := by
  cases value with
  | string value => simp [Json.asStr]
  | _ => simp [Json.asStr]

theorem asObject_eq_some {value : Json} {members : List (String × Json)} :
    value.asObject = some members ↔ value = .object members := by
  cases value with
  | object value => simp [Json.asObject]
  | _ => simp [Json.asObject]

theorem bind_asStr {member : Option Json} {text : String} :
    member.bind Json.asStr = some text ↔ member = some (.string text) := by
  cases member with
  | none => simp
  | some value => simp [asStr_eq_some]

theorem lookup_of_nonEmptyString {object : List (String × Json)} {key text : String}
    (h : nonEmptyString object key = .ok text) : object.lookup key = some (.string text) := by
  unfold nonEmptyString at h
  have hfilter := orMalformed_eq_ok.mp h
  exact bind_asStr.mp (Option.filter_eq_some_iff.mp hfilter).1

theorem ImageDetail.text_of_ofText {text : String} {detail : ImageDetail}
    (h : ofText text = .ok detail) : detail.text = text := by
  unfold ofText at h
  split at h
  · cases h
    rfl
  · cases h
    rfl
  · cases h
    rfl
  · cases h

theorem ImageUrlContent.lookup_of_readDetail {member : Option Json}
    {detail : Option ImageDetail} (h : readDetail member = .ok detail) :
    member = detail.map fun detail => .string detail.text := by
  cases member with
  | none =>
    cases h
    rfl
  | some value =>
    obtain ⟨text, htext, h⟩ := ok_of_bind h
    obtain ⟨read, hread, h⟩ := ok_of_bind h
    cases h
    rw [Option.map_some, ImageDetail.text_of_ofText hread,
      ← asStr_eq_some.mp (orMalformed_eq_ok.mp htext)]

theorem AudioFormat.text_of_ofText {text : Option String} {format : AudioFormat}
    (h : ofText text = .ok format) : text = some format.text := by
  unfold ofText at h
  split at h
  · cases h
    rfl
  · cases h
    rfl
  · cases h

namespace MessageContentPart

variable {same : Json → Json → Prop}

/-- An object with two exact keys is the same as what is written for its two members. -/
theorem same_pair (hsame : Congruence same) {object : List (String × Json)}
    {first second : String} {a b : Json} (hne : first ≠ second)
    (hkeys : exactKeys object [first, second] = .ok ()) (hfirst : object.lookup first = some a)
    (hsecond : ∃ value, object.lookup second = some value ∧ same b value) :
    same (.object (member first a ++ member second b)) (.object object) := by
  refine hsame.object ?_
  intro name
  by_cases hname : name = first
  · subst hname
    rw [hfirst, List.lookup_append, lookup_member]
    exact hsame.member _
  by_cases hname' : name = second
  · subst hname'
    obtain ⟨value, hvalue, hsecond⟩ := hsecond
    rw [hvalue, List.lookup_append, lookup_member_ne _ hname, lookup_member]
    exact .some hsecond
  · rw [lookup_of_exactKeys hkeys (by simp [hname, hname']), List.lookup_append,
      lookup_member_ne _ hname, lookup_member_ne _ hname']
    exact .none

theorem same_of_readText (hsame : Congruence same) {object : List (String × Json)}
    {part : MessageContentPart} (htype : object.lookup "type" = some (.string "text"))
    (h : readText object = .ok part) : same part.toValue (.object object) := by
  obtain ⟨⟨⟩, hkeys, h⟩ := ok_of_bind h
  obtain ⟨text, htext, h⟩ := ok_of_bind h
  cases h
  exact same_pair hsame (by decide) hkeys htype
    ⟨_, bind_asStr.mp (orMalformed_eq_ok.mp htext), hsame.refl _⟩

theorem same_of_readImageUrl (hsame : Congruence same) {object : List (String × Json)}
    {part : MessageContentPart} (htype : object.lookup "type" = some (.string "image_url"))
    (h : readImageUrl object = .ok part) : same part.toValue (.object object) := by
  obtain ⟨⟨⟩, hkeys, h⟩ := ok_of_bind h
  obtain ⟨image, himage, h⟩ := ok_of_bind h
  obtain ⟨⟨⟩, himageKeys, h⟩ := ok_of_bind h
  obtain ⟨url, hurl, h⟩ := ok_of_bind h
  obtain ⟨detail, hdetail, h⟩ := ok_of_bind h
  cases h
  obtain ⟨value, hvalue, hobject⟩ := Option.bind_eq_some_iff.mp (orMalformed_eq_ok.mp himage)
  rw [asObject_eq_some.mp hobject] at hvalue
  refine same_pair hsame (by decide) hkeys htype ⟨_, hvalue, hsame.object ?_⟩
  intro name
  have hread := ImageUrlContent.lookup_of_readDetail hdetail
  by_cases hname : name = "url"
  · subst hname
    rw [lookup_of_nonEmptyString hurl, List.lookup_append, lookup_member]
    exact hsame.member _
  by_cases hname' : name = "detail"
  · subst hname'
    rw [hread, List.lookup_append, lookup_member_ne _ hname, lookup_optionalMember]
    exact hsame.member _
  · rw [lookup_of_exactKeys himageKeys (by simp [hname, hname']), List.lookup_append,
      lookup_member_ne _ hname, lookup_optionalMember_ne _ _ hname']
    exact .none

theorem same_of_readInputAudio (hsame : Congruence same) {object : List (String × Json)}
    {part : MessageContentPart} (htype : object.lookup "type" = some (.string "input_audio"))
    (h : readInputAudio object = .ok part) : same part.toValue (.object object) := by
  obtain ⟨⟨⟩, hkeys, h⟩ := ok_of_bind h
  obtain ⟨audio, haudio, h⟩ := ok_of_bind h
  obtain ⟨⟨⟩, haudioKeys, h⟩ := ok_of_bind h
  obtain ⟨data, hdata, h⟩ := ok_of_bind h
  obtain ⟨format, hformat, h⟩ := ok_of_bind h
  cases h
  obtain ⟨value, hvalue, hobject⟩ := Option.bind_eq_some_iff.mp (orMalformed_eq_ok.mp haudio)
  rw [asObject_eq_some.mp hobject] at hvalue
  have hread := bind_asStr.mp (AudioFormat.text_of_ofText hformat)
  exact same_pair hsame (by decide) hkeys htype
    ⟨_, hvalue, same_pair hsame (by decide) haudioKeys (lookup_of_nonEmptyString hdata)
      ⟨_, hread, hsame.refl _⟩⟩

/-- A part that is accepted is written as it was read. -/
theorem same_of_tryFromJson (hsame : Congruence same) {value : Json} {part : MessageContentPart}
    (h : tryFromJson value = .ok part) : same part.toValue value := by
  obtain ⟨object, hobject, h⟩ := ok_of_bind h
  obtain ⟨partType, hpartType, h⟩ := ok_of_bind h
  rw [asObject_eq_some.mp (orMalformed_eq_ok.mp hobject)]
  have htype := bind_asStr.mp (orMalformed_eq_ok.mp hpartType)
  unfold ofObject at h
  split at h
  · exact same_of_readText hsame htype h
  · exact same_of_readImageUrl hsame htype h
  · exact same_of_readInputAudio hsame htype h
  · cases h

end MessageContentPart

/-- A content that is accepted is written as it was read, whatever is meant by the same value
as long as it goes by the parts of a value. -/
theorem MessageContent.same_of_tryFromJson {same : Json → Json → Prop} (hsame : Congruence same)
    {value : Json} {content : MessageContent} (h : tryFromJson value = .ok content) :
    same content.toValue value := by
  unfold tryFromJson at h
  split at h
  · cases h
    exact hsame.refl _
  · obtain ⟨parts, hparts, h⟩ := ok_of_bind h
    cases h
    refine hsame.array ?_
    rw [List.forall₂_map_left_iff]
    refine (forall₂_of_mapM hparts).flip.imp ?_
    exact fun _ _ => MessageContentPart.same_of_tryFromJson hsame
  · cases h

theorem MessageContent.agree_of_tryFromJson {value : Json} {content : MessageContent}
    (h : tryFromJson value = .ok content) : Agree content.toValue value :=
  same_of_tryFromJson Agree.congruence h

end SmartGateway
