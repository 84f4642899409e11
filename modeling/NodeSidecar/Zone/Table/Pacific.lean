/-
**Time zones of Australia, Antarctica and the Pacific.**

One record for each name, in the form that `NodeSidecar.Zone.Record` reads: the offsets the zone
has used, in seconds, then its changes as the seconds since the change before it with the letter
of the offset that begins, then the yearly rule it still follows; or `=` and the name of the zone
that it is another name of.  A line that begins with a space continues the record before it.
-/

set_option autoImplicit false

namespace NodeSidecar.Zone.Table

/-- The records of the zones of Australia, Antarctica and the Pacific. -/
def pacific : String := "Antarctica/Casey 0,28800,39600
 -31536000b1287338400c11912400b52023600c10105200b147222000c43635600b18154800c13896000b
 17377200c13467600b18144060c13899540b17550060c13899540b17550060c13651140b
Antarctica/Davis 0,25200,18000
 -409190400b246128400a134204400b1284663600c12445200b51490800c10112400b
Antarctica/DumontDUrville 0,36000 -725846400b158853600a151495200b
Antarctica/Macquarie 0,36000,39600
 -2214259200b533750400c15120000b63669600a914666400b615916800c15724800b18144000c11491200b
 19958400c11491200b19958400c12096000b19958400c10281600b21168000c10886400b20563200c10886400b
 20563200c10886400b20563200c11491200b20563200c10886400b20563200c10886400b20563200c10886400b
 20563200c10886400b20563200c10886400b20563200c13305600b18748800c12700800b18748800c10886400b
 20563200c10886400b20563200c10886400b19958400c12700800b19353600c12700800b19353600c12096000b
 19353600c12096000b19353600c13305600b16329600c15120000b16329600c15120000b16329600c15120000b
 16329600c15120000b16329600c15724800b16329600c15120000b16329600c15120000b16329600c15120000b
 16329600c15120000b13305600c18144000b16934400c15120000b16329600c15120000b16329600c15120000b
 16329600c15120000b16329600c15724800b15724800c15120000b16934400c15724800b15724800c15724800b
 15724800c47174400b @36000,39600,10,1,0,7200,4,1,0,10800
Antarctica/Mawson 0,21600,18000 -501206400b1757016000c
Antarctica/McMurdo 0,43200,46800
 -441849600b594482400c9676800b21168000c11491200b20563200c10886400b20563200c10886400b
 20563200c10886400b20563200c10886400b20563200c10886400b20563200c11491200b20563200c10886400b
 20563200c10886400b20563200c10886400b20563200c10886400b20563200c10886400b20563200c11491200b
 20563200c10886400b18748800c13910400b17539200c13910400b17539200c13910400b17539200c14515200b
 16934400c14515200b16934400c14515200b16934400c14515200b17539200c13910400b17539200c13910400b
 17539200c14515200b16934400c14515200b16934400c14515200b17539200c13910400b17539200c13910400b
 17539200c14515200b16934400c14515200b16934400c14515200b16934400c14515200b
 @43200,46800,9,5,0,7200,4,1,0,10800
Antarctica/Palmer 0,-10800,-14400,-7200
 -157766400b5108400c19702800b11833200c19702800b14598000c15728400b16326000c15728400b
 15721200c15728400b135730800d8463600b252464400c14000400b13302000c18147600b13302000c
 18752400b12697200c18752400b12697200c18752400b15721200c15728400b13302000c18147600b13302000c
 18752400b12697200c16333200b15116400c18752400b13302000c18147600b13302000c18147600b13302000c
 18147600b13302000c18752400b12697200c18752400b14511600c16938000b13302000c16938000b16326000c
 16333200b13302000c18752400b12697200c18752400b12697200c18752400b12697200c18752400b13302000c
 18147600b13302000c18147600b13302000c18752400b12697200c18752400b14511600c16938000b13302000c
 18147600b15116400c16333200b18140400c9075600b21769200c10890000b20559600c11494800b19954800c
 11494800b53218800c7866000b
Antarctica/Rothera 0,-10800 218246400b
Antarctica/South_Pole =Antarctica/McMurdo
Antarctica/Syowa 0,10800 -407808000b
Antarctica/Troll 0,7200 1111885200b @0,7200,3,5,0,3600,10,5,0,10800
Antarctica/Vostok 0,25200,18000 -380073600b1140109200a23612400b919191600c
Australia/ACT =Australia/Sydney
Australia/Adelaide 33260,32400,34200,37800
 -2364110060b133920860c557631000d7171200c781747200d7516800c15724800d15724800c16329600d
 15120000c870912000d10281600c21168000d10886400c20563200d10886400c20563200d10886400c
 20563200d11491200c20563200d10886400c20563200d10886400c20563200d10886400c20563200d10886400c
 20563200d10886400c20563200d11491200c20563200d10886400c20563200d10886400c20563200d10886400c
 20563200d12096000c18748800d12700800c19353600d12700800c19353600d12096000c19353600d12096000c
 19353600d10886400c20563200d12700800c18748800d11491200c20563200d12096000c19353600d12700800c
 18748800d13305600c18144000d13305600c18144000d13305600c18144000d13305600c18748800d12700800c
 18748800d12700800c18748800d13305600c18144000d13305600c18144000d13305600c18748800d12700800c
 18748800d13305600c18144000d12700800c18748800d @34200,37800,10,1,0,7200,4,1,0,10800
Australia/Brisbane 36728,36000,39600
 -2366791928b694231928c7171200b781747200c7516800b15724800c15724800b16329600c15120000b
 870912000c10281600b557625600c10886400b20563200c10886400b20563200c10886400b
Australia/Broken_Hill 33948,36000,32400,34200,37800
 -2364110748b49159548c84762000d557631000e7171200d781747200e7516800d15724800e15724800d
 16329600e15120000d870912000e10281600d21168000e10886400d20563200e10886400d20563200e
 10886400d20563200e11491200d20563200e10886400d20563200e10886400d20563200e10886400d20563200e
 10886400d20563200e10886400d20563200e13910400d18144000e10886400d20563200e10886400d20563200e
 10886400d20563200e12096000d18748800e12700800d19353600e12700800d19353600e12096000d19353600e
 10886400d20563200e10886400d20563200e10886400d20563200e11491200d20563200e10886400d20563200e
 10886400d20563200e13305600d18144000e13305600d18144000e13305600d18144000e13305600d18748800e
 12700800d18748800e12700800d18748800e13305600d18144000e13305600d18144000e13305600d18748800e
 12700800d18748800e13305600d18144000e12700800d18748800e @34200,37800,10,1,0,7200,4,1,0,10800
Australia/Canberra =Australia/Sydney
Australia/Currie =Australia/Hobart
Australia/Darwin 31400,32400,34200,37800
 -2364108200b133919000c557631000d7171200c781747200d7516800c15724800d15724800c16329600d 15120000c
Australia/Eucla 30928,31500,35100
 -2337928528b665373028c7171200b781747200c7516800b15724800c15724800b996710400c10886400b
 273369600c10886400b243129600c9072000b465696000c9676800b18748800c13305600b18144000c 13305600b
Australia/Hobart 35356,36000,39600
 -2345795356b665286556c15120000b18748800c10886400b20563200c10886400b720662400c7516800b
 15724800c15724800b16329600c15120000b742089600c15724800b18144000c11491200b19958400c
 11491200b19958400c12096000b19958400c10281600b21168000c10886400b20563200c10886400b20563200c
 10886400b20563200c11491200b20563200c10886400b20563200c10886400b20563200c10886400b20563200c
 10886400b20563200c10886400b20563200c13305600b18748800c12700800b18748800c10886400b20563200c
 10886400b20563200c10886400b19958400c12700800b19353600c12700800b19353600c12096000b19353600c
 12096000b19353600c13305600b16329600c15120000b16329600c15120000b16329600c15120000b16329600c
 15120000b16329600c15724800b16329600c15120000b16329600c15120000b16329600c15120000b16329600c
 15120000b13305600c18144000b16934400c15120000b16329600c15120000b16329600c15120000b16329600c
 15120000b16329600c15724800b15724800c15120000b @36000,39600,10,1,0,7200,4,1,0,10800
Australia/LHI =Australia/Lord_Howe
Australia/Lindeman 35756,36000,39600
 -2366790956b694230956c7171200b781747200c7516800b15724800c15724800b16329600c15120000b
 870912000c10281600b557625600c10886400b20563200c10886400b20563200c10886400b20563200c
 11491200b20563200c10886400b
Australia/Lord_Howe 38180,36000,37800,41400,39600
 -2364114980b2716331780c20568600d11487600c20566800d10882800c20566800d10882800c20566800d
 10882800c20566800e12094200c18750600e12699000c19355400e12699000c19355400e12094200c19355400e
 10884600c20565000e10884600c20565000e10884600c20565000e11489400c20565000e10884600c20565000e
 10884600c20565000e13303800c18145800e13303800c18145800e13303800c18145800e13303800c18750600e
 12699000c13307400e18142200c18750600e13303800c18145800e13303800c18145800e13303800c18750600e
 12699000c18750600e13303800c18145800e12699000c18750600e @37800,39600,10,1,0,7200,4,1,0,7200
Australia/Melbourne 34792,36000,39600
 -2364111592b691551592c7171200b781747200c7516800b15724800c15724800b16329600c15120000b
 870912000c10281600b21168000c10886400b20563200c10886400b20563200c10886400b20563200c
 11491200b20563200c10886400b20563200c10886400b20563200c10886400b20563200c10886400b20563200c
 10886400b20563200c11491200b20563200c10886400b20563200c10886400b20563200c10886400b20563200c
 12096000b18748800c12700800b18748800c13305600b19353600c12096000b19353600c12096000b19353600c
 10886400b20563200c10886400b20563200c11491200b20563200c10886400b20563200c12700800b18748800c
 13305600b18144000c13305600b18144000c13305600b18144000c13305600b18748800c12700800b13305600c
 18144000b18748800c13305600b18144000c13305600b18144000c13305600b18748800c12700800b18748800c
 13305600b18144000c12700800b18748800c @36000,39600,10,1,0,7200,4,1,0,10800
Australia/NSW =Australia/Sydney
Australia/North =Australia/Darwin
Australia/Perth 27804,28800,32400
 -2337925404b665372604c7171200b781747200c7516800b15724800c15724800b996710400c10886400b
 273369600c10886400b243129600c9072000b465696000c9676800b18748800c13305600b18144000c 13305600b
Australia/Queensland =Australia/Brisbane
Australia/South =Australia/Adelaide
Australia/Sydney 36292,36000,39600
 -2364113092b691553092c7171200b781747200c7516800b15724800c15724800b16329600c15120000b
 870912000c10281600b21168000c10886400b20563200c10886400b20563200c10886400b20563200c
 11491200b20563200c10886400b20563200c10886400b20563200c10886400b20563200c10886400b20563200c
 10886400b20563200c13910400b18144000c10886400b20563200c10886400b20563200c10886400b20563200c
 12096000b18748800c12700800b19353600c12700800b19353600c12096000b19353600c10886400b20563200c
 10886400b20563200c10886400b20563200c11491200b20563200c10886400b20563200c10886400b20563200c
 13305600b18144000c13305600b18144000c13305600b18144000c13305600b18748800c12700800b13305600c
 18144000b18748800c13305600b18144000c13305600b18144000c13305600b18748800c12700800b18748800c
 13305600b18144000c12700800b18748800c @36000,39600,10,1,0,7200,4,1,0,10800
Australia/Tasmania =Australia/Hobart
Australia/Victoria =Australia/Melbourne
Australia/West =Australia/Perth
Australia/Yancowinna =Australia/Broken_Hill
Pacific/Apia 45184,-41216,-41400,-39600,-36000,50400,46800
 -2445424384b583545600c1230768184d1916609400e16254000d15120000e8366400f7963200g15724800f
 16329600g15120000f16329600g15120000f16329600g15120000f16329600g15120000f16329600g15120000f
 16329600g15724800f16329600g15120000f16329600g15120000f16329600g
Pacific/Auckland 41944,41400,45000,43200,46800
 -3192435544b1862100544c10278000b19357200d13303800b18145800d13303800b18145800d13303800b
 18145800d13908600b17541000d13908600b17541000d17537400b13307400d18142200b13307400d18142200b
 13307400d18142200b13307400d18142200b13307400d18747000b12702600d18747000b13307400d
 1075937400e9676800d21168000e11491200d20563200e10886400d20563200e10886400d20563200e
 10886400d20563200e10886400d20563200e10886400d20563200e11491200d20563200e10886400d20563200e
 10886400d20563200e10886400d20563200e10886400d20563200e10886400d20563200e11491200d20563200e
 10886400d18748800e13910400d17539200e13910400d17539200e13910400d17539200e14515200d16934400e
 14515200d16934400e14515200d16934400e14515200d17539200e13910400d17539200e13910400d17539200e
 14515200d16934400e14515200d16934400e14515200d17539200e13910400d17539200e13910400d17539200e
 14515200d16934400e14515200d16934400e14515200d16934400e14515200d
 @43200,46800,9,5,0,7200,4,1,0,10800
Pacific/Bougainville 37336,35312,36000,32400,39600
 -2840178136b473387624c1498780112d99104400c2188602000e
Pacific/Chatham 44028,44100,45900,49500
 -3192437628b2435011128c910059300d9676800c21168000d11491200c20563200d10886400c20563200d
 10886400c20563200d10886400c20563200d10886400c20563200d10886400c20563200d11491200c20563200d
 10886400c20563200d10886400c20563200d10886400c20563200d10886400c20563200d10886400c20563200d
 11491200c20563200d10886400c18748800d13910400c17539200d13910400c17539200d13910400c17539200d
 14515200c16934400d14515200c16934400d14515200c16934400d14515200c17539200d13910400c17539200d
 13910400c17539200d14515200c16934400d14515200c16934400d14515200c17539200d13910400c17539200d
 13910400c17539200d14515200c16934400d14515200c16934400d14515200c16934400d14515200c
 @45900,49500,9,5,0,9900,4,1,0,13500
Pacific/Chuuk -49972,36428,36000,32400
 -3944628428b1767139200c433814828d136861200c699404400d136774800c
Pacific/Easter -26248,-25200,-21600,-18000
 -1178124152b1141504952c12697200b20566800c10882800b16938000c13302000b18147600c13302000b
 18752400c12697200b17542800c13906800b18752400c12697200b18752400c13302000b18147600c13302000b
 18147600c13302000b18752400c12697200b18752400c12697200b18752400c13302000b18147600c31449600d
 13302000c18147600d13302000c18752400d12697200c18752400d12697200c18752400d15721200c15728400d
 13302000c18147600d13302000c18752400d12697200c16333200d15116400c18752400d13302000c18147600d
 13302000c18147600d13302000c18147600d13302000c18752400d12697200c18752400d14511600c16938000d
 13302000c16938000d16326000c16333200d13302000c18752400d12697200c18752400d12697200c18752400d
 12697200c18752400d13302000c18147600d13302000c18147600d13302000c18752400d12697200c18752400d
 14511600c16938000d13302000c18147600d15116400c16333200d18140400c9075600d21769200c10890000d
 20559600c11494800d19954800c11494800d53218800c7866000d23583600c7866000d23583600c7866000d
 20559600c13309200d18140400c13309200d18140400c13309200d18140400c13914000d
 @-21600,-18000,9,1,6,79200,4,1,6,79200
Pacific/Efate 40396,39600,43200
 -1829387596b1954797196c8467200b299379600c15721200b15728400c15721200b16333200c15116400b
 16333200c15721200b15728400c15721200b15728400c15721200b15728400c15721200b15728400c15721200b
 16333200c10278000b23590800c7858800b
Pacific/Enderbury =Pacific/Kanton
Pacific/Fakaofo -41096,-39600,46800 -2177411704b3502654504c
Pacific/Fiji 42944,43200,46800
 -1709985344b2619827744c10281600b21772800c9676800b307843200c10281600b18144000c11491200b
 19958400c7862400b23587200c7862400b24192000c7254000b24800400c6652800b24796800c6652800b
 25401600c6048000b25401600c6048000b25401600c6048000b26006400c5443200b29635200c2419200b
Pacific/Funafuti 43012,43200 -2177495812b
Pacific/Galapagos -21504,-18000,-21600 -1230746496b1735686096c217990800b5958000c
Pacific/Gambier -32388,-32400 -1806678012b
Pacific/Guadalcanal 38388,39600 -1806748788b
Pacific/Guam -51660,34740,36000,32400,39600
 -3944626740b1767139200c1291937940d83293200c470365200e50281200c207882000e44312460c12711540e
 6044400c20566800e11487600c19962000e11487600c71974800e6044400c71024400e7599660c21171540e 10882800c
Pacific/Honolulu -37886,-37800,-34200,-36000
 -2334101314b1176818314c1846800b275238000c114822000b53226000d
Pacific/Johnston =Pacific/Honolulu
Pacific/Kanton 0,-43200,-39600,46800 -1020470400b1328097600c481244400d
Pacific/Kiritimati -37760,-38400,-36000,50400 -2177415040b2485037440c481245600d
Pacific/Kosrae -47284,39116,39600,32400,36000,43200
 -3944631116b1767139200c433813916d136864800c565394400e134010000d136774800c762645600f 923094000c
Pacific/Kwajalein 40160,39600,36000,32400,-43200,43200
 -2177492960b1136074160c134010000d89946000b809474400e753922800f
Pacific/Majuro 41088,39600,32400,36000,43200
 -2177493888b433815888c136864800b565394400d134010000c89341200b810079200e
Pacific/Marquesas -33480,-34200 -1806676920b
Pacific/Midway -42568,-39600,-36000 -2177410232b1748905832c7858800b
Pacific/Nauru 40060,41400,32400,43200 -1545131260b682213060c95567400b1054769400d
Pacific/Niue -40780,-40800,-39600 -543069620b369446420c
Pacific/Norfolk 40312,40320,41400,45000,39600,43200
 -2177493112b1577836792c751686120d10886400c1280966400e126405000f
 @39600,43200,10,1,0,7200,4,1,0,10800
Pacific/Noumea 39948,39600,43200
 -1829387148b2079389148c7340400b24109200c7426800b560487600c7862400b
Pacific/Pago_Pago 45432,-40968,-39600 -2445424632b583545600c
Pacific/Palau -54124,32276,32400 -3944624276b1767139200c
Pacific/Pitcairn -31220,-30600,-28800 -2177421580b3071087380c
Pacific/Pohnpei -48428,37972,39600,32400,36000
 -3944629972b1767139200c433812772d136864800c565394400e134010000d136774800c
Pacific/Ponape =Pacific/Pohnpei
Pacific/Port_Moresby 35320,35312,36000 -2840176120b473385608c
Pacific/Rarotonga 48056,-38344,-37800,-34200,-36000
 -2209555256b1666483200c822786656d9673200e20565000d10884600e20565000d10884600e20565000d
 11489400e20565000d10884600e20565000d10884600e20565000d10884600e20565000d10884600e20565000d
 10884600e20565000d11489400e20565000d10884600e20565000d10884600e20565000d10884600e
Pacific/Saipan -51420,34980,32400,36000,39600
 -3944626980b1767139200c1373330580d472266000e50281200d207882000e44312460d12711540e6044400d
 20566800e11487600d19962000e11487600d71974800e6044400d71024400e7599660d21171540e10882800d
Pacific/Samoa =Pacific/Pago_Pago
Pacific/Tahiti -35896,-36000 -1806674504b
Pacific/Tarawa 41524,43200 -2177494324b
Pacific/Tongatapu 44352,44400,46800,50400
 -767189952b483148752c1223256000d14169600c19958400d7254000c24195600d7254000c466304400d 6048000c
Pacific/Truk =Pacific/Chuuk
Pacific/Wake 39988,43200 -2177492788b
Pacific/Wallis 44120,43200 -2177496920b
Pacific/Yap =Pacific/Chuuk"

end NodeSidecar.Zone.Table
