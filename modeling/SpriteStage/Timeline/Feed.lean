import SpriteStage.Event

namespace SpriteStage

/-!
# Event feeds

A feed keeps what a listener has not read yet.  It has room for a bounded
number of events: of more, a listener gets only the newest, and learns how
many it missed.
-/

/-- The events that a listener has not read, newest first. -/
structure EventFeed where
  newest : List Event

/-- What a listener reads: how many events are lost, and the others. -/
structure Delivery where
  skipped : Nat
  events : List Event

namespace EventFeed

def capacity : Nat := 256

def empty : EventFeed := ⟨[]⟩

instance : Inhabited EventFeed := ⟨empty⟩

/-- The events that have not been read, oldest first. -/
def unread (feed : EventFeed) : List Event := feed.newest.reverse

def publish (feed : EventFeed) (events : List Event) : EventFeed :=
  ⟨events.reverse ++ feed.newest⟩

def deliver (feed : EventFeed) : Delivery :=
  ⟨feed.newest.length - capacity, (feed.newest.take capacity).reverse⟩

@[simp] theorem unread_empty : empty.unread = [] := rfl

@[simp] theorem unread_publish (feed : EventFeed) (events : List Event) :
    (feed.publish events).unread = feed.unread ++ events := by
  simp [unread, publish]

theorem length_deliver_le (feed : EventFeed) : feed.deliver.events.length ≤ capacity := by
  simp only [deliver, List.length_reverse, List.length_take]
  omega

/-- What is delivered is the end of what was not read: only the oldest events are lost. -/
theorem events_deliver (feed : EventFeed) :
    feed.deliver.events = feed.unread.drop feed.deliver.skipped := by
  simp only [deliver, unread, List.drop_reverse]
  generalize capacity = room
  by_cases short : feed.newest.length ≤ room
  · rw [List.take_of_length_le short, List.take_of_length_le (by omega)]
  · rw [Nat.sub_sub_self (by omega)]

end EventFeed

end SpriteStage
