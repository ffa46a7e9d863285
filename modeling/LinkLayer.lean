import LinkLayer.Bytes
import LinkLayer.Arp.Packet
import LinkLayer.Arp.CheckLen
import LinkLayer.Arp.Setters
import LinkLayer.Arp.Reencode
import LinkLayer.Ether
import LinkLayer.Ether.Traits
import LinkLayer.Channel.Host
import LinkLayer.Channel.Open
import LinkLayer.Channel.Halves
import LinkLayer.Channel.Lifecycle
import LinkLayer.Interfaces.Sockaddr
import LinkLayer.Interfaces.Get
import LinkLayer.Channel.Addressing
