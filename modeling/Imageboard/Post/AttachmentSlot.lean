import Imageboard.Post.Basic

/-! The attachments of the post that is being read.

An attachment is pending from the first mark of it on the page to the one that ends it, and
only then is it kept. -/
namespace Imageboard

structure AttachmentSlot where
  pending : Option Attachment := none
  committed : List Attachment := []
  deriving DecidableEq

namespace AttachmentSlot

/-- Begins an attachment, in place of one that was never ended. -/
def begin (s : AttachmentSlot) (a : Attachment) : AttachmentSlot := { s with pending := some a }

def modifyPending (s : AttachmentSlot) (f : Attachment → Attachment) : AttachmentSlot :=
  { s with pending := s.pending.map f }

/-- Whether there is a pending attachment that `keep` approves. -/
def wouldKeep (s : AttachmentSlot) (keep : Attachment → Bool) : Bool := s.pending.any keep

/-- Ends the pending attachment, and keeps it if `keep` approves. -/
def commitIf (s : AttachmentSlot) (keep : Attachment → Bool) : AttachmentSlot :=
  { pending := none, committed := s.committed ++ (s.pending.filter keep).toList }

def commit (s : AttachmentSlot) : AttachmentSlot := s.commitIf fun _ => true

/-- Changes the attachment kept last, for marks that follow its end. -/
def modifyLast (s : AttachmentSlot) (f : Attachment → Attachment) : AttachmentSlot :=
  { s with committed := s.committed.modify (s.committed.length - 1) f }

end AttachmentSlot

end Imageboard
