/-
  Gatehouse — the store of accounts.

  What can be asked of a store of accounts (`UserCall`) with the answer to each question,
  and a store in memory that answers them. The store in memory holds at most one record
  for an identifier and at most one for an address; a call that fails changes nothing.
-/
import Gatehouse.Account.User
import Gatehouse.Error

namespace Gatehouse

/-- What can be asked of a store of accounts. -/
inductive UserCall
  | create (user : User)
  | findById (id : UserId)
  | findByEmail (email : EmailAddress)
  | existsByEmail (email : EmailAddress)
  | update (user : User)
deriving DecidableEq

namespace UserCall

/-- The answer to a call. -/
abbrev Answer : UserCall → Type
  | create _ => User
  | findById _ => Option User
  | findByEmail _ => Option User
  | existsByEmail _ => Bool
  | update _ => User

/-- What a call that got no answer in time is called. -/
def title : UserCall → String
  | create _ => "user create"
  | findById _ => "user lookup"
  | findByEmail _ => "user lookup"
  | existsByEmail _ => "email lookup"
  | update _ => "user update"

end UserCall

/-- A store of accounts in memory. -/
structure UserStore where
  records : List User := []
deriving DecidableEq, Repr, Inhabited

namespace UserStore

/-- The record with an identifier. -/
def findById (s : UserStore) (id : UserId) : Option User := s.records.find? (·.id == id)

/-- The record with an address. -/
def findByEmail (s : UserStore) (email : EmailAddress) : Option User :=
  s.records.find? (·.email == email)

/-- Some record has the address. -/
def existsByEmail (s : UserStore) (email : EmailAddress) : Bool :=
  s.records.any (·.email == email)

/-- Add a record, unless its identifier or its address is in use. -/
def create (s : UserStore) (u : User) : Except StoreError UserStore :=
  if s.records.any (·.id == u.id) then .error (.conflict u.id.text)
  else if s.existsByEmail u.email then .error (.conflict u.email.text)
  else .ok ⟨s.records ++ [u]⟩

/-- Put a record in the place of the one with its identifier. -/
def replace (s : UserStore) (u : User) : UserStore :=
  ⟨s.records.map fun v => if v.id = u.id then u else v⟩

/-- Change a record, unless another one has the address. -/
def update (s : UserStore) (u : User) : Except StoreError UserStore :=
  if s.records.any fun v => v.id != u.id && v.email == u.email then .error (.conflict u.email.text)
  else if s.records.any (·.id == u.id) then .ok (s.replace u)
  else .error (.notFound u.id.text)

/-- Answer a call that changes the store if it succeeds. -/
def committed {α : Type} (s : UserStore) (a : α) :
    Except StoreError UserStore → Except StoreError α × UserStore
  | .ok after => (.ok a, after)
  | .error e => (.error e, s)

/-- Answer a call. -/
def perform (s : UserStore) : (c : UserCall) → Except StoreError c.Answer × UserStore
  | .create u => s.committed u (s.create u)
  | .findById id => (.ok (s.findById id), s)
  | .findByEmail email => (.ok (s.findByEmail email), s)
  | .existsByEmail email => (.ok (s.existsByEmail email), s)
  | .update u => s.committed u (s.update u)

end UserStore

end Gatehouse
