import Libiphone.Basic
import Libiphone.Connection
import Libiphone.Device
import Libiphone.AFC.Client
import Libiphone.AFC.Receive
import Libiphone.AFC.Dispatch
import Libiphone.AFC.Strings
import Libiphone.AFC.Operations
import Libiphone.AFC.FileIO
import Libiphone.AFC.Transfer
import Libiphone.AFC.Exchange
import Libiphone.MobileSync
import Libiphone.MobileSync.Handshake
import Libiphone.MobileSync.Session
import Libiphone.NP.Client
import Libiphone.NP.Notifier
import Libiphone.Sessions
import Libiphone.Lockstep
import Libiphone.NP.Session
import Libiphone.TransferLockstep
import Libiphone.Iphoneinfo
import Libiphone.Iphoneinfo.Main
