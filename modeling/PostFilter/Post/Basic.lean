import PostFilter.Spell.Argument
import PostFilter.Text.Lowercase

/-!
# Posts

What is known about one post: its text and marks, its attachments and its videos. The perceptual
hash of an attachment and the details of a video may be missing; they can be asked for
(`PostFilter.Verdict.Inquiry`).
-/

namespace PostFilter

/-- An attached file. -/
structure Attachment where
  name : String
  /-- The size in kilobytes, if it is known. -/
  weight : Option UInt64 := none
  width : Option UInt32 := none
  height : Option UInt32 := none
  /-- The name under which its hash is asked for. -/
  id : String
  /-- The perceptual hash, if it is known. -/
  signature : Option UInt64 := none
  deriving DecidableEq

/-- What a video host tells about a video. -/
structure VideoDetails where
  title : String
  author : String
  views : Option UInt64 := none
  deriving DecidableEq

/-- A link to a video. -/
structure Video where
  host : String
  /-- The name of the video on its host. -/
  id : String
  title : Option String := none
  author : Option String := none
  views : Option UInt64 := none
  deriving DecidableEq

/-- Everything that spells may ask about a post. -/
structure Post where
  number : UInt64
  /-- The place within the thread, counted from 1. -/
  position : UInt64 := 0
  /-- Whether the post opens its thread. -/
  isOpening : Bool := false
  sage : Bool := false
  text : String := ""
  /-- The text with its markup. -/
  html : String := ""
  subject : String := ""
  /-- The name of the author. -/
  name : String := ""
  /-- The signature of the author. -/
  signature : Option String := none
  attachments : List Attachment := []
  videos : List Video := []
  deriving DecidableEq

/-- The size in pixels, if both axes are known. -/
def Attachment.dimensions? (a : Attachment) : Option Dimensions :=
  match a.width, a.height with
  | some width, some height => some ⟨width, height⟩
  | _, _ => none

/-- The details of a video, if title and author are known. -/
def Video.details? (v : Video) : Option VideoDetails :=
  match v.title, v.author with
  | some title, some author => some ⟨title, author, v.views⟩
  | _, _ => none

/-- The text in small letters. -/
def Post.lowercaseText (p : Post) : String := Text.lowercase p.text

end PostFilter
