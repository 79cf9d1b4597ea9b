import Iperf.Total
import Iperf.Controller.Signals
import Iperf.Server.Surplus
import Iperf.Server.Mailbox
import Iperf.Server.Stranger
import Iperf.Client.LifeCycle
import Iperf.Client.Wire
import Iperf.Session.Agreement
import Iperf.Session.Size
import Iperf.Session.Refusal
import Iperf.NetUtil.Conversation
import Iperf.StreamWorker.Limit
import Iperf.StreamWorker.Bitrate
import Iperf.StreamWorker.Retransmits
import Iperf.Ui.Units
import Iperf.Host.Hostage
import Iperf.Printing.Attended
import Iperf.Printing.Sections
import Iperf.Session.Following
import Iperf.Host.Shutdown
import Iperf.Host.Process
import Iperf.NetUtil.Unambiguous
import Iperf.Visit.Streams
import Iperf.Printing.Waiting
