import PuppetRegistry.Puppet.Row

/-!
# Statements

Everything that is asked of a store. Each statement has a text with numbered places and the
arguments for them; `Sqlite` gives it a meaning on rows.
-/

namespace PuppetRegistry

inductive Statement
  | selectAll
  | selectUser (user : String)
  | selectLinkedTo (id : String)
  | selectLinked
  | selectFirstActivity (user : String)
  | insert (values : Row)
  /-- Overwrite all but the activity in the row of the same user. -/
  | update (values : Row)
  /-- Raise the latest activity of a user, never lower it. -/
  | advanceLast (second : Int) (user : String)
  /-- Set the first activity of a user who has none. -/
  | claimFirst (second : Int) (user : String)
  | free (sql : String) (arguments : List Cell)
  deriving DecidableEq, Repr

namespace Statement

def columns : String :=
  "username, avatar, avatar_url, displayname, name_quality, name_set, avatar_set, last_sync, " ++
    "custom_mxid, access_token, next_batch, enable_presence, enable_receipts, " ++
    "first_activity_ts, last_activity_ts"

def selectColumns : String := "SELECT " ++ columns ++ " FROM puppet"

def sql : Statement → String
  | selectAll => selectColumns
  | selectUser _ => selectColumns ++ " WHERE username=$1"
  | selectLinkedTo _ => selectColumns ++ " WHERE custom_mxid=$1"
  | selectLinked => selectColumns ++ " WHERE custom_mxid<>\x27\x27"
  | selectFirstActivity _ => "SELECT first_activity_ts FROM puppet WHERE username=$1"
  | insert _ =>
    "INSERT INTO puppet ( username, avatar, avatar_url, avatar_set, displayname, name_quality, " ++
      "name_set, last_sync, custom_mxid, access_token, next_batch, enable_presence, " ++
      "enable_receipts, first_activity_ts, last_activity_ts ) " ++
      "VALUES ($1, $2, $3, $4, $5, $6, $7, $8, $9, $10, $11, $12, $13, $14, $15)"
  | update _ =>
    "UPDATE puppet SET displayname=$1, name_quality=$2, name_set=$3, avatar=$4, avatar_url=$5, " ++
      "avatar_set=$6, last_sync=$7, custom_mxid=$8, access_token=$9, next_batch=$10, " ++
      "enable_presence=$11, enable_receipts=$12 WHERE username=$13"
  | advanceLast _ _ =>
    "UPDATE puppet SET last_activity_ts=$1 " ++
      "WHERE username=$2 AND (last_activity_ts IS NULL OR last_activity_ts < $1)"
  | claimFirst _ _ =>
    "UPDATE puppet SET first_activity_ts=$1 WHERE username=$2 AND first_activity_ts IS NULL"
  | free sql _ => sql

def arguments : Statement → List Cell
  | selectAll | selectLinked => []
  | selectUser user | selectFirstActivity user => [.text user]
  | selectLinkedTo id => [.text id]
  | insert r =>
    [r.user, r.avatar, r.avatarUri, r.avatarSet, r.displayname, r.nameQuality, r.nameSet,
      r.lastSync, r.linkedUser, r.accessToken, r.nextBatch, r.enablePresence, r.enableReceipts,
      r.firstActivity, r.lastActivity]
  | update r =>
    [r.displayname, r.nameQuality, r.nameSet, r.avatar, r.avatarUri, r.avatarSet, r.lastSync,
      r.linkedUser, r.accessToken, r.nextBatch, r.enablePresence, r.enableReceipts, r.user]
  | advanceLast second user | claimFirst second user => [.int second, .text user]
  | free _ arguments => arguments

end Statement

end PuppetRegistry
