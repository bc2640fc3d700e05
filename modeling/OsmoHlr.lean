import OsmoHlr.Mslookup.MdnsReceive
import OsmoHlr.Mslookup.MdnsRoundTrip
import OsmoHlr.Mslookup.AnswerNumbers
import OsmoHlr.Mslookup.DomainStr
import OsmoHlr.Mslookup.MdnsSize
import OsmoHlr.Mslookup.RecordFraming
import OsmoHlr.Mslookup.TxtRecords
import OsmoHlr.Mslookup.ClientLifecycle
import OsmoHlr.Mslookup.ClientMdns
import OsmoHlr.Mslookup.ClientMethods
import OsmoHlr.Mslookup.ClientReentry
import OsmoHlr.Mslookup.LookupAnswers
import OsmoHlr.Mslookup.ClientOutput
import OsmoHlr.Identifiers
import OsmoHlr.Gsup.ReplyRouting
import OsmoHlr.Gsup.MakeResponse
import OsmoHlr.Gsup.PeerAddressing
import OsmoHlr.Gsup.ForwardLocal
import OsmoHlr.Gsup.RouteRuns
import OsmoHlr.Gsup.GsupClient
import OsmoHlr.Gsup.Auc3gInd
import OsmoHlr.Lu.LuVlr
import OsmoHlr.Lu.LuMessages
import OsmoHlr.Lu.VlrNames
import OsmoHlr.Ussd.SsHandlers
import OsmoHlr.Ussd.SsLifecycle
import OsmoHlr.Ussd.SsRequests
import OsmoHlr.Ussd.EuseRefs
import OsmoHlr.Ussd.UssdRouting
import OsmoHlr.Dgsm.Dgsm
import OsmoHlr.Dgsm.Entries
import OsmoHlr.Dgsm.ProxyOrder
import OsmoHlr.Dgsm.ProxyWaiting
import OsmoHlr.Dgsm.Msisdns
import OsmoHlr.Dgsm.DoneLuHere
import OsmoHlr.Dgsm.CheckForward
import OsmoHlr.Dgsm.ForwardSize
import OsmoHlr.Dgsm.MdnsFollows
import OsmoHlr.Dgsm.ConfigRoundTrip
import OsmoHlr.Dgsm.ServiceRegistry
import OsmoHlr.Dgsm.MslookupServer
import OsmoHlr.Dgsm.MslookupServerHost
import OsmoHlr.Dgsm.LookupNetwork
import OsmoHlr.Dgsm.ForwardedTo
import OsmoHlr.Dgsm.HlrNetwork
import OsmoHlr.Db.LeftoverKeys
import OsmoHlr.Db.Statements
import OsmoHlr.Db.Sound
import OsmoHlr.Db.KeyOrigin
import OsmoHlr.Db.Interrupted
import OsmoHlr.Auc.SqnRuns
import OsmoHlr.NetworkAccess
import OsmoHlr.UpdateNotify
import OsmoHlr.Main.Records
import OsmoHlr.Main.OnDemand
import OsmoHlr.Main.LuTables
import OsmoHlr.Main.Handlers
import OsmoHlr.Main.ReadCb
import OsmoHlr.Main.MainLibHost
import OsmoHlr.Main.RecordRuns
import OsmoHlr.Main.SqnFresh
import OsmoHlr.Lib.Books
import OsmoHlr.Main.HeldRequests
import OsmoHlr.Main.RequestLedger
import OsmoHlr.Main.Answers
import OsmoHlr.Subscr.HlrVtySubscr
import OsmoHlr.Main.Operator
