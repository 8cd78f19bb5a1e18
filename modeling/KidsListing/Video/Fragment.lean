import KidsListing.Document.PlainText
import KidsListing.Run
import KidsListing.Video.Basic
import KidsListing.Video.Duration
import KidsListing.Video.ViewCount

/-!
# Fragments

A fragment is a part of a document of the provider that describes one video.  It
decodes to a video, or to nothing when it has no video id, or decoding fails.
A fragment may be damaged: reading one of its keys then fails.
-/

namespace KidsListing

structure Fragment where
  content : Document
  damage : Option (String × Fault) := none

/-- What a fragment decodes to. -/
inductive Decoded where
  | item (video : Video)
  | absent
  | failed (fault : Fault)
  deriving DecidableEq

namespace Fragment

/-- The value under a key; only objects have keys to read. -/
def read (f : Fragment) (key : String) : Except Fault Document :=
  match f.content, f.damage with
  | .object _, some (damaged, fault) =>
      if damaged = key then .error fault else .ok (f.content.step key)
  | content, _ => .ok (content.step key)

def counted (count : Option Nat) : Int :=
  match count with
  | some n => n
  | none => -1

def watchUrl (id : String) : String := "/watch?v=" ++ id

theorem watchUrl_ne_empty (id : String) : watchUrl id ≠ "" := by
  intro h
  have := congrArg String.toList h
  simp [watchUrl] at this

def channelUrl (id : String) : String := "/channel/" ++ id

/-- The video of a fragment that has an id; the id is read before all else, and
the other keys in the order of this definition. -/
def video? (f : Fragment) : Except Fault (Option Video) := do
  let id ← (← f.read "videoId").plainText
  if id = "" then return none
  let byline ← f.read "longBylineText"
  let channel ← byline.linkedChannel
  let title ← (← f.read "title").label
  let thumbnailUrl ← (← f.read "thumbnail").sharpestImage
  let uploaderName ← byline.label
  let uploaderAvatarUrl ← (← f.read "channelThumbnail").firstImage
  let uploadedDateText ← (← f.read "publishedTimeText").label
  let duration ← (← f.read "lengthText").label
  let views ← (← f.read "viewCountText").label
  let viewCount ← ViewCount.parse views.toList
  return some {
    url := watchUrl id
    title, thumbnailUrl, uploaderName
    uploaderUrl := channel.map channelUrl
    uploaderAvatarUrl
    uploadedDateText := some uploadedDateText
    durationSeconds := counted (Duration.parse? duration.toList)
    viewCount := counted viewCount
    url_ne_empty := watchUrl_ne_empty id }

def decode (f : Fragment) : Decoded :=
  match f.video? with
  | .ok (some video) => .item video
  | .ok none => .absent
  | .error fault => .failed fault

/-- The videos of the fragments that decode.  A failed fragment is logged under
its id and skipped; should its id be what cannot be read, everything fails. -/
def decodeAll : List Fragment → Run (List Video)
  | [] => pure []
  | f :: rest =>
      match f.decode with
      | .item video => do return video :: (← decodeAll rest)
      | .absent => decodeAll rest
      | .failed fault => do
          let id ← Run.ofExcept (f.read "videoId")
          Run.log (.fragmentSkipped id fault)
          decodeAll rest

end Fragment

end KidsListing
