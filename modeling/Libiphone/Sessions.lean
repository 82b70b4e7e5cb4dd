import Libiphone.AFC.FileIO
import Libiphone.AFC.Operations
import Libiphone.NP.Client

/-!
# Sessions of calls on one client

A program that uses a client makes one call after another.  Each call of an operation either
returns before it locks the client, or locks its mutex once and unlocks it once, whatever its
sends and receives are handed; the transport, a `Conn`, ranges over all of them.  So a mutex
that is free before a sequence of calls is free after it.

`AfcCall` lists the seventeen operations of the AFC client and `NpCall` the four of the
NotificationProxy client that take the mutex, each with its arguments.
-/

namespace Libiphone

open AFC NP

/-- A call of an operation of the AFC client, with its arguments. -/
inductive AfcCall
  | readDirectory (dir : Option CString) (list : Option (Option (List (List UInt8))))
  | getDeviceInfo (infos : Option (Option (List (List UInt8))))
  | removePath (path : Option CString)
  | renamePath (fromPath toPath : CString)
  | makeDirectory (dir : CString)
  | getFileInfo (path : Option CString) (infolist : Option (Option (List (List UInt8))))
  | fileOpen (filename : CString) (fileMode : Nat)
  | fileRead (handle : UInt64) (length : Int)
  | fileWrite (handle : UInt64) (data : List UInt8) (length : Int)
  | fileClose (handle : UInt64)
  | fileLock (handle operation : UInt64)
  | fileSeek (handle : UInt64) (offset whence : Int)
  | fileTell (handle : UInt64)
  | fileTruncate (handle newsize : UInt64)
  | truncate (path : CString) (newsize : Int)
  | makeLink (linktype : UInt64) (target linkname : CString)
  | setFileTime (path : CString) (mtime : UInt64)

/-- A call of an operation of the NotificationProxy client that takes its mutex. -/
inductive NpCall
  | postNotification (notification : Option String)
  | observeNotification (notification : Option String)
  | getNotification (notification : Option String)
  | setNotifyCallback (notifyCb created : Bool)

namespace AfcCall

variable (D : AfcDefs)

/-- The client as the call leaves it. -/
def run : AfcCall → AfcClient → AfcClient
  | readDirectory dir list, c => (afcReadDirectory D c dir list).2.2
  | getDeviceInfo infos, c => (afcGetDeviceInfo D c infos).2.2
  | removePath path, c => (afcRemovePath D c path).2
  | renamePath fromPath toPath, c => (afcRenamePath D c fromPath toPath).2
  | makeDirectory dir, c => (afcMakeDirectory D c dir).2
  | getFileInfo path infolist, c => (afcGetFileInfo D c path infolist).2.2
  | fileOpen filename fileMode, c => (afcFileOpen D c filename fileMode).2.2
  | fileRead handle length, c => (afcFileRead D c handle length).2
  | fileWrite handle data length, c => (afcFileWrite D c handle data length).2.2
  | fileClose handle, c => (afcFileClose D c handle).2
  | fileLock handle operation, c => (afcFileLock D c handle operation).2
  | fileSeek handle offset whence, c => (afcFileSeek D c handle offset whence).2
  | fileTell handle, c => (afcFileTell D c handle).2.2
  | fileTruncate handle newsize, c => (afcFileTruncate D c handle newsize).2
  | truncate path newsize, c => (afcTruncate D c path newsize).2
  | makeLink linktype target linkname, c => (afcMakeLink D c linktype target linkname).2
  | setFileTime path mtime, c => (afcSetFileTime D c path mtime).2

/-- The client after the calls, made one after the other. -/
def runAll (calls : List AfcCall) (client : AfcClient) : AfcClient :=
  calls.foldl (fun c call => call.run D c) client

theorem run_balanced (call : AfcCall) (client : AfcClient) :
    MutexEvent.Balanced client.mutex (call.run D client).mutex := by
  cases call with
  | readDirectory dir list => exact afcReadDirectory_mutex client dir list
  | getDeviceInfo infos => exact afcGetDeviceInfo_mutex client infos
  | removePath path => exact afcRemovePath_mutex client path
  | renamePath fromPath toPath => exact afcRenamePath_mutex client fromPath toPath
  | makeDirectory dir => exact afcMakeDirectory_mutex client dir
  | getFileInfo path infolist => exact afcGetFileInfo_mutex client path infolist
  | fileOpen filename fileMode => exact afcFileOpen_mutex client filename fileMode
  | fileRead handle length => exact afcFileRead_mutex client handle length
  | fileWrite handle data length => exact afcFileWrite_mutex client handle data length
  | fileClose handle => exact afcFileClose_mutex client handle
  | fileLock handle operation => exact afcFileLock_mutex client handle operation
  | fileSeek handle offset whence => exact afcFileSeek_mutex client handle offset whence
  | fileTell handle => exact afcFileTell_mutex client handle
  | fileTruncate handle newsize => exact afcFileTruncate_mutex client handle newsize
  | truncate path newsize => exact afcTruncate_mutex client path newsize
  | makeLink linktype target linkname => exact afcMakeLink_mutex client linktype target linkname
  | setFileTime path mtime => exact afcSetFileTime_mutex client path mtime

theorem runAll_isFree (calls : List AfcCall) (client : AfcClient) :
    MutexEvent.isFree (runAll D calls client).mutex = MutexEvent.isFree client.mutex := by
  induction calls generalizing client with
  | nil => rfl
  | cons call calls ih =>
    rw [runAll, List.foldl_cons, ← runAll, ih,
      MutexEvent.isFree_of_balanced (run_balanced D call client)]

end AfcCall

namespace NpCall

variable (N : NpDefs)

/-- The client as the call leaves it. -/
def run : NpCall → NpClient → NpClient
  | postNotification notification, c => (iphoneNpPostNotification N c notification).2
  | observeNotification notification, c => (iphoneNpObserveNotification N c notification).2
  | getNotification notification, c => (iphoneNpGetNotification N c notification).2
  | setNotifyCallback notifyCb created, c => (iphoneNpSetNotifyCallback N c notifyCb created).2

/-- The client after the calls, made one after the other. -/
def runAll (calls : List NpCall) (client : NpClient) : NpClient :=
  calls.foldl (fun c call => call.run N c) client

theorem run_balanced (call : NpCall) (client : NpClient) :
    MutexEvent.Balanced client.mutex (call.run N client).mutex := by
  cases call with
  | postNotification notification => exact iphoneNpPostNotification_mutex client notification
  | observeNotification notification => exact iphoneNpObserveNotification_mutex client notification
  | getNotification notification => exact iphoneNpGetNotification_mutex client notification
  | setNotifyCallback notifyCb created =>
    exact iphoneNpSetNotifyCallback_mutex client notifyCb created

theorem runAll_isFree (calls : List NpCall) (client : NpClient) :
    MutexEvent.isFree (runAll N calls client).mutex = MutexEvent.isFree client.mutex := by
  induction calls generalizing client with
  | nil => rfl
  | cons call calls ih =>
    rw [runAll, List.foldl_cons, ← runAll, ih,
      MutexEvent.isFree_of_balanced (run_balanced N call client)]

end NpCall

/-- Every call of an AFC operation or of a NotificationProxy operation, whatever its sends and
receives are handed, leaves the client's mutex untouched or locked and unlocked once, in that
order; so any sequence of calls leaves the mutex free if it found it free. -/
theorem calls_release_mutex (D : AfcDefs) (N : NpDefs) :
    (∀ (call : AfcCall) (client : AfcClient),
      MutexEvent.Balanced client.mutex (call.run D client).mutex) ∧
    (∀ (call : NpCall) (client : NpClient),
      MutexEvent.Balanced client.mutex (call.run N client).mutex) ∧
    (∀ (calls : List AfcCall) (client : AfcClient),
      MutexEvent.isFree (AfcCall.runAll D calls client).mutex = MutexEvent.isFree client.mutex) ∧
    (∀ (calls : List NpCall) (client : NpClient),
      MutexEvent.isFree (NpCall.runAll N calls client).mutex = MutexEvent.isFree client.mutex) :=
  ⟨AfcCall.run_balanced D, NpCall.run_balanced N, AfcCall.runAll_isFree D,
    NpCall.runAll_isFree N⟩

end Libiphone
