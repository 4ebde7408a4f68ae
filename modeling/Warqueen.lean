import Warqueen.Client.Attempt
import Warqueen.Client.NeverConnected
import Warqueen.Client.Partners
import Warqueen.ClientOnServer.Closing
import Warqueen.ClientOnServer.Failures
import Warqueen.Cloneless.Wire
import Warqueen.Delivery.Sent
import Warqueen.Delivery.Unordered
import Warqueen.ExampleServer.Console
import Warqueen.Receiving.Order
import Warqueen.Server.Listener
import Warqueen.Server.PortSearch
import Warqueen.Server.Workers
import Warqueen.Session.Cutoff
import Warqueen.Session.Progress
