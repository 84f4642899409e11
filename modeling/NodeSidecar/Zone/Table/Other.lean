/-
**Time zones of the Arctic and the Atlantic, and names without a region.**

One record for each name, in the form that `NodeSidecar.Zone.Record` reads: the offsets the zone
has used, in seconds, then its changes as the seconds since the change before it with the letter
of the offset that begins, then the yearly rule it still follows; or `=` and the name of the zone
that it is another name of.  A line that begins with a space continues the record before it.
-/

set_option autoImplicit false

namespace NodeSidecar.Zone.Table

/-- The records of the zones of the Arctic and the Atlantic, and names without a region. -/
def other : String := "Arctic/Longyearbyen =Europe/Oslo
Atlantic/Azores -6160,-6872,-7200,-3600,0,3600
 -2713904240b883527440c140828400d11754000c10368000d19695600c11840400d19695600c11840400d
 19695600c11926800d19695600c11840400d19695600c79056000d14774400c48384000d14515200c16329600d
 15120000c16934400d15120000c16934400d14515200c48384000d14515200c15724800d15724800c47779200d
 15724800c15120000d16329600c16934400d14515200c15724800d15724800c15120000d16329600c16934400d
 18748800c8467200d19526400c15552000d15811200c13824000d3625200e9676800d6051600c12096000d
 3020400e11491200d5446800c11491200d3625200e10886400d5446800c11491200d3625200e10886400d
 5446800c13910400d15724800c15735600d15724800c15724800d15724800c15724800d15724800c15724800d
 15724800c15724800d16329600c15724800d15724800c15724800d15724800c15724800d15724800c15724800d
 15724800c15724800d16329600c15724800d15724800c15724800d15724800c15724800d15724800c15724800d
 15724800c15724800d15724800c15724800d16329600c15724800d15724800c15724800d15724800c15724800d
 15724800c15724800d504392400e15724800d15724800e15724800d15724800e16329600d15724800e
 15724800d15724800e15724800d15724800e15724800d15724800e15724800d15724800e15724800d15724800e
 16329600d15724800e15724800d15724800e15724800d7866000e7858800f6998400e8726400d15724800e
 15724800d15724800e15724800d @-3600,0,3,5,0,0,10,5,0,3600
Atlantic/Bermuda -15558,-11958,-14400,-10800
 -1664307642b15375600a16851600b13388400a356410800c379554042d24188400c13309200d19350000c
 11494800d20559600c10890000d20559600c48387600d10278000c21776400d9068400c22381200d9068400c
 22986000d8463600c22986000d8463600c22986000d9068400c117334800d13302000c552186000d15721200c
 15728400d15721200c15728400d16326000c15123600d16326000c15728400d15721200c15728400d15721200c
 15728400d15721200c15728400d15721200c15728400d16326000c15123600d16326000c15728400d15721200c
 15728400d15721200c15728400d15721200c13914000d17535600c13914000d18140400c13309200d18140400c
 13309200d18140400c13914000d17535600c13914000d17535600c13914000d18140400c13309200d18140400c
 13309200d18140400c13914000d17535600c13914000d17535600c13914000d17535600c13914000d18140400c
 13309200d18140400c13309200d18140400c13914000d17535600c13914000d17535600c13914000d18140400c
 13309200d18140400c13309200d18140400c @-14400,-10800,3,2,0,7200,11,1,0,7200
Atlantic/Canary -3696,-3600,0,3600
 -1509663504b775789104c1057701600d15123600c15724800d15724800c15724800d15724800c15724800d
 15724800c15724800d16329600c15724800d15724800c15724800d15724800c15724800d15724800c15724800d
 15724800c15724800d15724800c15724800d16329600c15724800d15724800c15724800d15724800c15724800d
 15724800c15724800d15724800c15724800d15724800c @0,3600,3,5,0,3600,10,5,0,7200
Atlantic/Cape_Verde -5644,-7200,-3600 -1830376800b967766400c98492400b950238000c
Atlantic/Faeroe =Atlantic/Faroe
Atlantic/Faroe -1624,0,3600
 -1955748776b2310424376c15724800b15724800c15724800b15724800c15724800b15724800c16329600b
 15724800c15724800b15724800c15724800b15724800c15724800b15724800c15724800b15724800c15724800b
 15724800c16329600b15724800c15724800b15724800c15724800b15724800c15724800b15724800c15724800b
 15724800c15724800b @0,3600,3,5,0,3600,10,5,0,7200
Atlantic/Jan_Mayen =Europe/Oslo
Atlantic/Madeira -4056,-3600,0,3600
 -1830380400b140828400c11754000b10368000c19695600b11840400c19695600b11840400c19695600b
 11926800c19695600b11840400c19695600b79056000c14774400b48384000c14515200b16329600c15120000b
 16934400c15120000b16934400c14515200b48384000c14515200b15724800c15724800b47779200c15724800b
 15120000c16329600b16934400c14515200b15724800c15724800b15120000c16329600b16934400c18748800b
 8467200c19526400b15552000c15811200b13824000c3625200d9676800c6051600b12096000c3020400d
 11491200c5446800b11491200c3625200d10886400c5446800b11491200c3625200d10886400c5446800b
 13910400c15724800b15735600c15724800b15724800c15724800b15724800c15724800b15724800c15724800b
 15724800c16329600b15724800c15724800b15724800c15724800b15724800c15724800b15724800c15724800b
 15724800c16329600b15724800c15724800b15724800c15724800b15724800c15724800b15724800c15724800b
 15724800c15724800b15724800c16329600b15724800c15724800b15724800c15724800b15724800c15724800b
 15724800c504997200d15120000c15724800d15724800c15724800d16329600c15724800d15724800c
 15724800d15728400c15724800d15724800c15724800d15724800c15724800d15724800c15724800d16329600c
 15724800d15724800c15724800d15724800c15724800d15724800c15724800d15724800c15724800d15724800c
 @0,3600,3,5,0,3600,10,5,0,7200
Atlantic/Reykjavik -5280,-3600,0
 -1956609120b288397920c20998800b10537200c23245200b8290800c23245200b42332400c8211600b
 563324400c15732000b10285200c21769200b10281600c21168000b10886400c19958400b11491200c
 19958400b11491200c19958400b11491200c20563200b10886400c20563200b13910400c17539200b13910400c
 17539200b13910400c18144000b13305600c17539200b13910400c18144000b13910400c17539200b13910400c
 17539200b13910400c17539200b13910400c17539200b13910400c18144000b13910400c17539200b13910400c
 17539200b13910400c17539200b13910400c17539200b13910400c17539200b13910400c18144000b13910400c
 17539200b13910400c17539200b13910400c17539200b13910400c17539200b13910400c18144000b13910400c
Atlantic/South_Georgia -8768,-7200 -2524512832b
Atlantic/St_Helena -1368,0 -599614632b
Atlantic/Stanley -13884,-14400,-10800,-7200
 -1824235716b806026116c15116400b16333200c15116400b16938000c15116400b16333200c15116400b
 16333200c15116400b16333200c8290800b1272675600c12697200d18745200c12099600d19350000c
 30848400b12704400c18745200b12704400c18745200b12704400c18745200b12704400c19350000b12099600c
 19350000b12704400c18745200b12704400c18745200b12704400c18745200b12704400c18745200b12704400c
 19350000b12704400c18745200b12704400c18745200b12704400c18745200b12704400c18745200b12704400c
 18752400b12099600c19954800b11494800c19954800b12099600c19350000b12099600c19350000b12099600c
 19350000b12099600c19350000b12099600c19954800b12099600c19350000b12099600c19350000b12099600c
CET =Europe/Brussels
CST6CDT =America/Chicago
Cuba =America/Havana
EET =Europe/Athens
EST =America/Panama
EST5EDT =America/New_York
Egypt =Africa/Cairo
Eire =Europe/Dublin
GB =Europe/London
GB-Eire =Europe/London
HST =Pacific/Honolulu
Hongkong =Asia/Hong_Kong
Iceland =Atlantic/Reykjavik
Iran =Asia/Tehran
Israel =Asia/Jerusalem
Jamaica =America/Jamaica
Japan =Asia/Tokyo
Kwajalein =Pacific/Kwajalein
Libya =Africa/Tripoli
MET =Europe/Brussels
MST =America/Phoenix
MST7MDT =America/Denver
NZ =Pacific/Auckland
NZ-CHAT =Pacific/Chatham
Navajo =America/Denver
PRC =Asia/Shanghai
PST8PDT =America/Los_Angeles
Poland =Europe/Warsaw
Portugal =Europe/Lisbon
ROC =Asia/Taipei
ROK =Asia/Seoul
Singapore =Asia/Singapore
Turkey =Europe/Istanbul
W-SU =Europe/Moscow
WET =Europe/Lisbon"

end NodeSidecar.Zone.Table
