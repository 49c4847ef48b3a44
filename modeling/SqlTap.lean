import SqlTap.Wire
import SqlTap.StartupPacket
import SqlTap.Strings
import SqlTap.Conn
import SqlTap.Transaction
import SqlTap.ExtendedQuery
import SqlTap.Portals
import SqlTap.Events
import SqlTap.Relay
import SqlTap.Acceptor
import SqlTap.Capture
import SqlTap.Shutdown
import SqlTap.Transparency
import SqlTap.Startup
